import GameBoy.Proofs.Timer.Request
import Mathlib.Data.Set.Card

/-!
# The free-running timer

A timer that is left alone is a function of the time that has passed. Its counter says how
many edges have fallen; the first of them bring the timer register to its wrap, and from then
on it goes round from the modulo register. A wrap is seen as zero for four cycles, and then the
reload requests the interrupt. So the register and the number of requests follow from two
numbers alone: the edges that have fallen, and the cycles since the last one.
-/

namespace GameBoy.Timer

/-- Edges that fall within some cycles, if the timer runs. -/
def edges (timer : Timer) (cycles : Nat) : Nat :=
  (timer.counter.toNat + cycles) / timer.period - timer.counter.toNat / timer.period

/-- An edge falls at the end of a cycle: that many cycles are the first to have so many
edges. -/
def FallsAt (timer : Timer) (edge cycles : Nat) : Prop :=
  IsLeast {earlier | timer.edges earlier = edge} cycles

/-- Of the edges within some cycles, the last one fell fewer than four cycles ago. -/
def Recent (timer : Timer) (cycles : Nat) : Prop :=
  ∃ last, timer.FallsAt (timer.edges cycles) last ∧ cycles < last + 4

/-- Edges until the timer register wraps. -/
def short (timer : Timer) : Nat := 256 - timer.count.toNat

/-- Edges between two wraps of the timer register. -/
def lap (timer : Timer) : Nat := 256 - timer.modulo.toNat

variable {timer : Timer}

theorem short_pos (timer : Timer) : 0 < timer.short := by
  have := timer.count.toNat_lt
  unfold short
  omega

theorem lap_pos (timer : Timer) : 0 < timer.lap := by
  have := timer.modulo.toNat_lt
  unfold lap
  omega

/-! ## Edges -/

@[simp] theorem edges_zero (timer : Timer) : timer.edges 0 = 0 := Nat.sub_self _

/-- An edge falls whenever the counter comes to a multiple of the period. -/
theorem edges_succ (timer : Timer) (cycles : Nat) :
    timer.edges (cycles + 1) =
      timer.edges cycles +
        if (timer.counter.toNat + cycles + 1) % timer.period = 0 then 1 else 0 := by
  unfold edges
  rcases timer.period_cases with period | period | period | period <;>
    rw [period] <;> split <;> omega

/-- The cycles at whose end an edge falls. -/
def edgeCycle (timer : Timer) (edge : Nat) : Nat :=
  (timer.counter.toNat / timer.period + edge) * timer.period - timer.counter.toNat

theorem le_edges_iff (edge cycles : Nat) :
    edge ≤ timer.edges cycles ↔ timer.edgeCycle edge ≤ cycles := by
  unfold edges edgeCycle
  rcases timer.period_cases with period | period | period | period <;> rw [period] <;> omega

theorem edgeCycle_lt (timer : Timer) (edge : Nat) :
    timer.edgeCycle edge < timer.edgeCycle (edge + 1) := by
  unfold edgeCycle
  rcases timer.period_cases with period | period | period | period <;> rw [period] <;> omega

theorem fallsAt_edgeCycle (timer : Timer) (edge : Nat) :
    timer.FallsAt edge (timer.edgeCycle edge) := by
  constructor
  · apply Nat.le_antisymm
    · have next := timer.edgeCycle_lt edge
      by_contra more
      have early := (le_edges_iff (edge + 1) _).mp (Nat.lt_of_not_le more)
      omega
    · exact (le_edges_iff edge _).mpr (Nat.le_refl _)
  · intro earlier same
    exact (le_edges_iff edge earlier).mp (Nat.le_of_eq same.symm)

theorem fallsAt_iff {edge cycles : Nat} :
    timer.FallsAt edge cycles ↔ cycles = timer.edgeCycle edge := by
  constructor
  · intro falls
    exact falls.unique (timer.fallsAt_edgeCycle edge)
  · rintro rfl
    exact timer.fallsAt_edgeCycle edge

/-- An edge fell four cycles ago or earlier if it is not the last one, or if the counter has
come that far since it. -/
theorem edgeCycle_add_four_le_iff (timer : Timer) {edge : Nat} (some : 0 < edge)
    (cycles : Nat) :
    timer.edgeCycle edge + 4 ≤ cycles ↔
      edge < timer.edges cycles ∨
        edge = timer.edges cycles ∧ 4 ≤ (timer.counter.toNat + cycles) % timer.period := by
  unfold edges edgeCycle
  rcases timer.period_cases with period | period | period | period <;> rw [period] <;> omega

theorem recent_iff {cycles : Nat} (some : 0 < timer.edges cycles) :
    timer.Recent cycles ↔ (timer.counter.toNat + cycles) % timer.period < 4 := by
  have late := timer.edgeCycle_add_four_le_iff some cycles
  simp only [Recent, fallsAt_iff, exists_eq_left]
  omega

/-! ## One cycle -/

@[simp] theorem modulo_tick (timer : Timer) : timer.tick.1.modulo = timer.modulo := by
  simp only [tick, progressReload, countEdge, increment]
  repeat' split
  all_goals rfl

/-- A cycle in which an edge falls counts it, and may schedule a reload. -/
theorem tick_of_edge (running : timer.running = true) (idle : timer.reloadDelay = 0)
    (edge : (timer.counter.toNat + 1) % timer.period = 0) :
    timer.tick.1.count = timer.count + 1 ∧
      timer.tick.1.reloadDelay = (if timer.count = 0xFF then 4 else 0) ∧
        timer.tick.2 = false := by
  have counted : timer.tick.1 = (timer.uncounted .tick).increment :=
    after_of_falls ((falls_tick_iff running 0).mpr edge)
  have count : (timer.uncounted .tick).count = timer.count := by
    simp [uncounted, progressReload, idle]
  have delay : (timer.uncounted .tick).reloadDelay = 0 := by
    rw [reloadDelay_uncounted_tick, idle]
  refine ⟨?_, ?_, ?_⟩
  · rw [counted, count_increment, count]
  · rw [counted, reloadDelay_increment, count, delay]
    rfl
  · rw [raised_tick, idle]
    rfl

/-- Any other cycle brings a scheduled reload nearer, or reloads. -/
theorem tick_of_no_edge (running : timer.running = true)
    (between : (timer.counter.toNat + 1) % timer.period ≠ 0) :
    timer.tick.1.count = (if timer.reloadDelay = 1 then timer.modulo else timer.count) ∧
      timer.tick.1.reloadDelay = timer.reloadDelay - 1 ∧
        timer.tick.2 = decide (timer.reloadDelay = 1) := by
  have plain : timer.tick.1 = timer.uncounted .tick :=
    after_of_not_falls (mt (falls_tick_iff running 0).mp between)
  refine ⟨?_, ?_, raised_tick timer⟩
  · simp only [plain, uncounted, progressReload]
    split <;> rfl
  · rw [plain, reloadDelay_uncounted_tick]

/-! ## Stages -/

/-- How far a running timer has come after some cycles, with the requests so far. -/
inductive Stage (timer : Timer) (cycles : Nat) (after : Timer) (requests : Nat) : Prop where
  /-- The timer register has not wrapped yet. -/
  | rising (few : timer.edges cycles < timer.short)
      (count : after.count.toNat = timer.count.toNat + timer.edges cycles)
      (delay : after.reloadDelay = 0) (silent : requests = 0)
  /-- The last edge has wrapped the timer register, and the reload is to come. -/
  | wrapped (laps : timer.edges cycles = timer.short + requests * timer.lap)
      (recent : after.reloadDelay + (timer.counter.toNat + cycles) % timer.period = 4)
      (waiting : after.reloadDelay ≠ 0) (count : after.count = 0)
  /-- The timer register has been reloaded after each wrap and has counted on. -/
  | reloaded (laps rest : Nat) (requested : requests = laps + 1)
      (split : timer.edges cycles = timer.short + laps * timer.lap + rest)
      (within : rest < timer.lap)
      (late : rest = 0 → 4 ≤ (timer.counter.toNat + cycles) % timer.period)
      (count : after.count.toNat = timer.modulo.toNat + rest) (delay : after.reloadDelay = 0)

/-- What is known of a timer that has been left alone for some cycles. -/
structure LeftAlone (timer : Timer) (cycles : Nat) (after : Timer) (requests : Nat) : Prop where
  control : after.control = timer.control
  modulo : after.modulo = timer.modulo
  counter : after.counter.toNat = (timer.counter.toNat + cycles) % 0x10000
  stage : Stage timer cycles after requests

variable {after : Timer} {cycles requests : Nat}

/-- Where a running timer stands in its period is known from the cycles that have passed. -/
theorem LeftAlone.edge_iff (alone : LeftAlone timer cycles after requests) :
    (after.counter.toNat + 1) % after.period = 0 ↔
      (timer.counter.toNat + cycles + 1) % timer.period = 0 := by
  have same : after.period = timer.period := by simp only [period, alone.control]
  rw [same, alone.counter]
  rcases timer.period_cases with period | period | period | period <;> rw [period] <;> omega

theorem toNat_succ {value : Byte} (room : value ≠ 0xFF) :
    (value + 1).toNat = value.toNat + 1 := by
  have below := value.toNat_lt
  have short : value.toNat ≠ 255 := fun same => room (UInt8.toNat_inj.mp same)
  rw [UInt8.toNat_add, UInt8.toNat_one]
  exact Nat.mod_eq_of_lt (by omega)

theorem short_add_count (timer : Timer) : timer.short + timer.count.toNat = 256 :=
  Nat.sub_add_cancel (Nat.le_of_lt timer.count.toNat_lt)

theorem lap_add_modulo (timer : Timer) : timer.lap + timer.modulo.toNat = 256 :=
  Nat.sub_add_cancel (Nat.le_of_lt timer.modulo.toNat_lt)

namespace LeftAlone

variable (running : timer.running = true) (alone : LeftAlone timer cycles after requests)
include running alone

theorem runs : after.running = true := by
  simpa only [Timer.running, alone.control] using running

/-- An edge that falls while the timer register is full wraps it. -/
theorem stage_of_wrap (idle : after.reloadDelay = 0) (full : after.count = 0xFF)
    (edge : (timer.counter.toNat + cycles + 1) % timer.period = 0)
    (laps : timer.edges (cycles + 1) = timer.short + requests * timer.lap) :
    Stage timer (cycles + 1) after.tick.1 (requests + after.tick.2.toNat) := by
  obtain ⟨counted, delay, none⟩ :=
    tick_of_edge (alone.runs running) idle (alone.edge_iff.mpr edge)
  have aligned : (timer.counter.toNat + (cycles + 1)) % timer.period = 0 := edge
  rw [if_pos full] at delay
  rw [none]
  refine .wrapped laps ?_ ?_ ?_
  · rw [delay, aligned]
  · rw [delay]
    decide
  · rw [counted, full]
    rfl

/-- An edge that falls while there is room in the timer register is counted. -/
theorem tick_of_room (idle : after.reloadDelay = 0) (room : after.count ≠ 0xFF)
    (edge : (timer.counter.toNat + cycles + 1) % timer.period = 0) :
    after.tick.1.count.toNat = after.count.toNat + 1 ∧ after.tick.1.reloadDelay = 0 ∧
      after.tick.2 = false := by
  obtain ⟨counted, delay, none⟩ :=
    tick_of_edge (alone.runs running) idle (alone.edge_iff.mpr edge)
  rw [if_neg room] at delay
  refine ⟨?_, delay, none⟩
  rw [counted, toNat_succ room]

/-- A cycle in which an edge falls. -/
theorem stage_of_edge (edge : (timer.counter.toNat + cycles + 1) % timer.period = 0) :
    Stage timer (cycles + 1) after.tick.1 (requests + after.tick.2.toNat) := by
  have next : timer.edges (cycles + 1) = timer.edges cycles + 1 := by
    rw [edges_succ, if_pos edge]
  have shortage := timer.short_add_count
  have length := timer.lap_add_modulo
  rcases alone.stage with ⟨few, count, idle, silent⟩ | ⟨laps, recent, waiting, count⟩ |
    ⟨laps, rest, requested, split, within, late, count, idle⟩
  · by_cases full : after.count = 0xFF
    -- The first wrap: all edges that the register was short of have fallen.
    · apply alone.stage_of_wrap running idle full edge
      rw [full] at count
      have last : timer.count.toNat + timer.edges cycles = 255 := count.symm
      rw [silent, next]
      omega
    · obtain ⟨counted, delay, none⟩ := alone.tick_of_room running idle full edge
      have below := after.tick.1.count.toNat_lt
      rw [none, silent]
      refine .rising ?_ ?_ delay rfl
      · omega
      · rw [counted, next, count, Nat.add_assoc]
  -- The reload follows a wrap before the next edge.
  · rcases timer.period_cases with period | period | period | period <;>
      rw [period] at edge recent <;> omega
  · by_cases full : after.count = 0xFF
    · apply alone.stage_of_wrap running idle full edge
      rw [full] at count
      have last : timer.modulo.toNat + rest = 255 := count.symm
      rw [requested, next, split, Nat.succ_mul]
      omega
    · obtain ⟨counted, delay, none⟩ := alone.tick_of_room running idle full edge
      have below := after.tick.1.count.toNat_lt
      rw [none, requested]
      refine .reloaded laps (rest + 1) rfl ?_ ?_ ?_ ?_ delay
      · rw [next, split, Nat.add_assoc]
      · omega
      · exact fun none => nomatch none
      · rw [counted, count, Nat.add_assoc]

/-- A cycle in which no edge falls. -/
theorem stage_of_no_edge (between : (timer.counter.toNat + cycles + 1) % timer.period ≠ 0) :
    Stage timer (cycles + 1) after.tick.1 (requests + after.tick.2.toNat) := by
  obtain ⟨counted, delay, raised⟩ :=
    tick_of_no_edge (alone.runs running) (mt alone.edge_iff.mp between)
  have next : timer.edges (cycles + 1) = timer.edges cycles := by
    rw [edges_succ, if_neg between, Nat.add_zero]
  have phase : (timer.counter.toNat + (cycles + 1)) % timer.period =
      (timer.counter.toNat + cycles) % timer.period + 1 := by
    rcases timer.period_cases with period | period | period | period <;>
      rw [period] at between ⊢ <;> omega
  have length := timer.lap_pos
  rcases alone.stage with ⟨few, count, idle, silent⟩ | ⟨laps, recent, waiting, count⟩ |
    ⟨laps, rest, requested, split, within, late, count, idle⟩
  · rw [idle] at counted delay raised
    rw [raised]
    refine .rising (next ▸ few) ?_ delay silent
    rw [counted, next]
    exact count
  · by_cases last : after.reloadDelay = 1
    -- The reload is due.
    · rw [if_pos last] at counted
      rw [raised, last]
      refine .reloaded requests 0 rfl (next ▸ laps) length ?_ ?_ ?_
      · omega
      · rw [counted, alone.modulo, Nat.add_zero]
      · rw [delay, last]
    · rw [if_neg last] at counted
      rw [raised, decide_eq_false last]
      refine .wrapped (next ▸ laps) ?_ ?_ (counted.trans count)
      · omega
      · omega
  · rw [idle] at counted delay raised
    rw [raised]
    refine .reloaded laps rest requested (next ▸ split) within ?_ ?_ delay
    · intro none
      have early := late none
      omega
    · rw [counted]
      exact count

/-- One more cycle leads from stage to stage. -/
theorem tick : LeftAlone timer (cycles + 1) after.tick.1 (requests + after.tick.2.toNat) where
  control := control_tick.trans alone.control
  modulo := after.modulo_tick.trans alone.modulo
  counter := by
    rw [toNat_counter_tick, alone.counter, Nat.mod_add_mod, Nat.add_assoc]
  stage := by
    by_cases edge : (timer.counter.toNat + cycles + 1) % timer.period = 0
    · exact alone.stage_of_edge running edge
    · exact alone.stage_of_no_edge running edge

end LeftAlone

/-! ## Running -/

/-- The last of some cycles comes after the others. -/
theorem run_succ (timer : Timer) (cycles : Nat) :
    timer.run (cycles + 1) =
      ((timer.run cycles).1.tick.1,
        (timer.run cycles).2 + (timer.run cycles).1.tick.2.toNat) := by
  induction cycles generalizing timer with
  | zero => exact Prod.ext rfl (Nat.add_comm _ _)
  | succ cycles ih =>
      have rest := ih timer.tick.1
      change (((timer.tick.1.run (cycles + 1)).1,
        timer.tick.2.toNat + (timer.tick.1.run (cycles + 1)).2) : Timer × Nat) = _
      rw [rest]
      exact Prod.ext rfl (Nat.add_assoc _ _ _).symm

theorem leftAlone_run (running : timer.running = true) (idle : timer.reloadDelay = 0)
    (cycles : Nat) : LeftAlone timer cycles (timer.run cycles).1 (timer.run cycles).2 := by
  induction cycles with
  | zero =>
      refine ⟨rfl, rfl, (Nat.mod_eq_of_lt timer.counter.toNat_lt).symm, ?_⟩
      refine .rising ?_ ?_ idle rfl
      · rw [edges_zero]
        exact timer.short_pos
      · rw [edges_zero, Nat.add_zero]
        rfl
  | succ cycles ih =>
      rw [run_succ]
      exact ih.tick running

/-- A timer that does not run counts nothing. -/
theorem run_of_resting (resting : timer.running = false) (idle : timer.reloadDelay = 0)
    (cycles : Nat) :
    (timer.run cycles).1.count = timer.count ∧ (timer.run cycles).2 = 0 := by
  induction cycles generalizing timer with
  | zero => exact ⟨rfl, rfl⟩
  | succ cycles ih =>
      have steady : ¬ (timer.change 0 .tick).Falls := by
        intro falls
        have high := (timer.input_iff.mp falls.1).1
        exact nomatch resting.symm.trans high
      have plain : timer.tick.1 = timer.uncounted .tick := after_of_not_falls steady
      have silent : timer.tick.2 = false := by
        rw [raised_tick, idle]
        rfl
      have count : timer.tick.1.count = timer.count := by
        rw [plain]
        simp [uncounted, progressReload, idle]
      have delay : timer.tick.1.reloadDelay = 0 := by
        rw [plain, reloadDelay_uncounted_tick, idle]
      obtain ⟨same, none⟩ := ih (timer.running_tick.trans resting) delay
      refine ⟨same.trans count, ?_⟩
      change timer.tick.2.toNat + (timer.tick.1.run cycles).2 = 0
      rw [silent, none]
      rfl

/-! ## Closed form -/

/-- The requests so far are those of the wraps whose edge fell four cycles ago or earlier. -/
theorem Stage.lt_requests_iff (stage : Stage timer cycles after requests) (wraps : Nat) :
    wraps < requests ↔
      ∃ fell, fell + 4 ≤ cycles ∧ timer.FallsAt (timer.short + wraps * timer.lap) fell := by
  have some : 0 < timer.short + wraps * timer.lap := Nat.add_pos_left timer.short_pos _
  have waited : (∃ fell, fell + 4 ≤ cycles ∧
      timer.FallsAt (timer.short + wraps * timer.lap) fell) ↔
        timer.edgeCycle (timer.short + wraps * timer.lap) + 4 ≤ cycles := by
    simp only [fallsAt_iff, exists_eq_right]
  rw [waited, edgeCycle_add_four_le_iff timer some]
  have length := timer.lap_pos
  rcases stage with ⟨few, -, -, silent⟩ | ⟨split, recent, waiting, -⟩ |
    ⟨laps, rest, requested, split, within, late, -, -⟩
  · omega
  · rw [split, Nat.add_lt_add_iff_left, Nat.mul_lt_mul_right length]
    omega
  · rw [requested, split, Nat.lt_succ_iff]
    constructor
    · intro before
      have fewer := Nat.mul_le_mul_right timer.lap before
      omega
    · intro fallen
      by_contra more
      have further := Nat.mul_le_mul_right timer.lap (Nat.lt_of_not_le more)
      rw [Nat.succ_mul] at further
      omega

/-- The timer register beyond its first wrap, by the edges since its last one. -/
theorem Stage.count_of_wrapped (stage : Stage timer cycles after requests)
    (wrapped : timer.short ≤ timer.edges cycles) :
    let rest := (timer.edges cycles - timer.short) % timer.lap
    (rest = 0 ∧ timer.Recent cycles → after.count = 0) ∧
      (¬ (rest = 0 ∧ timer.Recent cycles) →
        after.count.toNat = timer.modulo.toNat + rest) := by
  intro rest
  have recent := timer.recent_iff (Nat.lt_of_lt_of_le timer.short_pos wrapped)
  rcases stage with ⟨few, -, -, -⟩ | ⟨split, since, waiting, count⟩ |
    ⟨laps, more, -, split, within, late, count, -⟩
  · exact absurd few (Nat.not_lt.mpr wrapped)
  · have none : rest = 0 := by
      simp only [rest, split, Nat.add_sub_cancel_left, Nat.mul_mod_left]
    refine ⟨fun _ => count, fun otherwise => absurd ⟨none, recent.mpr ?_⟩ otherwise⟩
    omega
  · have same : rest = more := by
      simp only [rest, split, Nat.add_assoc, Nat.add_sub_cancel_left]
      rw [Nat.mul_add_mod_self_right, Nat.mod_eq_of_lt within]
    rw [same]
    refine ⟨?_, fun _ => count⟩
    rintro ⟨none, new⟩
    exact absurd (late none) (Nat.not_le.mpr (recent.mp new))

/-- What a timer comes to that is left alone while no reload is scheduled. The counter counts
the cycles. A timer that does not run keeps its register and requests nothing. One that runs
counts the edges; from its first wrap on the register starts from the modulo register at each
wrap, except that within four cycles of a wrap it is zero. An interrupt is requested for each
wrap that is at least four cycles old, and for nothing else. -/
theorem run_from_edges (timer : Timer) (idle : timer.reloadDelay = 0) (cycles : Nat) :
    let final := (timer.run cycles).1
    let requests := (timer.run cycles).2
    let fallen := timer.edges cycles
    let rest := (fallen - timer.short) % timer.lap
    final.counter.toNat = (timer.counter.toNat + cycles) % 0x10000 ∧
      (timer.running = false → final.count = timer.count ∧ requests = 0) ∧
      (timer.running = true →
        (fallen < timer.short → final.count.toNat = timer.count.toNat + fallen) ∧
        (timer.short ≤ fallen →
          (rest = 0 ∧ timer.Recent cycles → final.count = 0) ∧
          (¬ (rest = 0 ∧ timer.Recent cycles) →
            final.count.toNat = timer.modulo.toNat + rest)) ∧
        {wraps | ∃ fell, fell + 4 ≤ cycles ∧
          timer.FallsAt (timer.short + wraps * timer.lap) fell}.encard = requests) := by
  intro final requests fallen rest
  refine ⟨timer.toNat_counter_run cycles, fun resting => run_of_resting resting idle cycles,
    fun running => ?_⟩
  have stage := (leftAlone_run running idle cycles).stage
  refine ⟨?_, stage.count_of_wrapped, ?_⟩
  · intro few
    rcases stage with ⟨-, count, -, -⟩ | ⟨split, -, -, -⟩ | ⟨laps, rest, -, split, -, -, -, -⟩
    · exact count
    · omega
    · omega
  · have counted : {wraps | ∃ fell, fell + 4 ≤ cycles ∧
        timer.FallsAt (timer.short + wraps * timer.lap) fell} =
          (Finset.range requests : Set Nat) := by
      ext wraps
      rw [Finset.coe_range, Set.mem_Iio]
      exact (stage.lt_requests_iff wraps).symm
    rw [counted, Set.encard_coe_eq_coe_finsetCard, Finset.card_range]

/-- With a modulo of `0xFF` every edge wraps the register. The counter itself wraps at the
first edge, and the timer register at the second, after 32 cycles. -/
theorem run_from_edges_of_full :
    let timer : Timer := { counter := 0xFFF0, count := 0xFE, modulo := 0xFF, control := 5 }
    timer.reloadDelay = 0 ∧ timer.running = true ∧
      (timer.run 35).1.count = 0 ∧ (timer.run 36).1.count.toNat = 255 ∧
        (timer.run 36).1.counter.toNat = 20 ∧
          {wraps | ∃ fell, fell + 4 ≤ 36 ∧
            timer.FallsAt (timer.short + wraps * timer.lap) fell}.encard = 1 := by
  intro timer
  have idle : timer.reloadDelay = 0 := rfl
  have running : timer.running = true := by decide
  obtain ⟨-, -, early⟩ := run_from_edges timer idle 35
  obtain ⟨counter, -, late⟩ := run_from_edges timer idle 36
  have fresh : timer.Recent 35 := ⟨32, fallsAt_iff.mpr (by decide), by decide⟩
  have stale : ¬ timer.Recent 36 := by
    rw [recent_iff (by decide)]
    decide
  have requests : (timer.run 36).2 = 1 := by decide
  refine ⟨idle, running, ?_, ?_, counter.trans (by decide), ?_⟩
  · exact ((early running).2.1 (by decide)).1 ⟨by decide, fresh⟩
  · exact (((late running).2.1 (by decide)).2 fun recent => stale recent.2).trans (by decide)
  · rw [(late running).2.2, requests]
    rfl

end GameBoy.Timer
