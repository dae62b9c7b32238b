import GameBoy.Proofs.Timer.History

/-!
# The timer between instructions

An instruction writes the timer's registers first, if at all, and then time passes
in whole machine cycles. Between instructions the counter is therefore a multiple of
four, and a scheduled reload and the window after it are seen only at their start.
This is what keeps edges, reloads and writes apart: whatever a program does, the
changes of the timer come in order, and its history is faithful.
-/

namespace GameBoy.Timer

/-! ## The watched signal -/

section Signal

variable {timer after : Timer}

theorem input_iff (timer : Timer) :
    timer.input = true ↔
      timer.running = true ∧ timer.counter.toNat.testBit timer.watchedBit = true := by
  rw [input, Bool.and_eq_true]

theorem watchedBit_cases (timer : Timer) :
    timer.watchedBit = 9 ∨ timer.watchedBit = 3 ∨ timer.watchedBit = 5 ∨
      timer.watchedBit = 7 := by
  unfold watchedBit
  split <;> simp

/-- The signal of a timer whose counter is one further. -/
theorem input_iff_of_succ (counter : after.counter = timer.counter + 1)
    (control : after.control = timer.control) :
    after.input = true ↔ timer.running = true ∧
      ((timer.counter.toNat + 1) % 0x10000).testBit timer.watchedBit = true := by
  have bit : after.watchedBit = timer.watchedBit := by simp only [watchedBit, control]
  have running : after.running = timer.running := by simp only [Timer.running, control]
  rw [input_iff, bit, running, counter, UInt16.toNat_add]
  rfl

/-- The watched bit is above the third, so the signal stays while the lowest three bits
do not overflow. -/
theorem input_of_succ_of_low (counter : after.counter = timer.counter + 1)
    (control : after.control = timer.control) (short : timer.counter.toNat % 8 ≠ 7) :
    after.input = timer.input := by
  have below := timer.counter.toNat_lt
  rw [Bool.eq_iff_iff, input_iff_of_succ counter control, input_iff, and_congr_right_iff]
  intro _
  simp only [Nat.testBit_eq_decide_div_mod_eq, decide_eq_true_iff]
  rcases timer.watchedBit_cases with bit | bit | bit | bit <;> rw [bit] <;> omega

/-- When the signal falls with the counter, the lowest four bits overflow. -/
theorem low_nibble_of_falls (counter : after.counter = timer.counter + 1)
    (control : after.control = timer.control) (high : timer.input = true)
    (low : after.input = false) : timer.counter.toNat % 16 = 15 := by
  have below := timer.counter.toNat_lt
  obtain ⟨running, set⟩ := timer.input_iff.mp high
  have clear : ¬ ((timer.counter.toNat + 1) % 0x10000).testBit timer.watchedBit = true := by
    intro still
    have lit := (input_iff_of_succ counter control).mpr ⟨running, still⟩
    exact nomatch low.symm.trans lit
  simp only [Nat.testBit_eq_decide_div_mod_eq, decide_eq_true_iff] at set clear
  rcases timer.watchedBit_cases with bit | bit | bit | bit <;> rw [bit] at set clear <;> omega

end Signal

/-! ## What holds at every clock cycle -/

/-- A scheduled reload is due at the end of a machine cycle, and so does the window after
it end. They are not seen together, nor does an edge fall before the reload. -/
structure Steady (timer : Timer) : Prop where
  delay : timer.reloadDelay = 0 ∨ timer.reloadDelay + timer.counter.toNat % 4 = 4
  window : timer.reloadWindow = 0 ∨ timer.reloadWindow + timer.counter.toNat % 4 = 4
  apart : timer.reloadDelay = 0 ∨ timer.reloadWindow = 0
  wrapped : timer.reloadDelay ≠ 0 → timer.count = 0
  loaded : timer.reloadWindow ≠ 0 → timer.count = timer.modulo
  low : timer.reloadDelay ≠ 0 → timer.input = false ∨ timer.counter.toNat % 16 < 4

/-- While a reload is scheduled the signal is low, and will not rise before it. -/
def DelayCalm (timer : Timer) : Prop :=
  timer.reloadDelay ≠ 0 → timer.input = false ∧ timer.counter.toNat % 16 < 4

/-- In the window after a reload the signal is low. -/
def WindowCalm (timer : Timer) : Prop := timer.reloadWindow ≠ 0 → timer.input = false

/-- What holds while time stands: the counter is at the start of a machine cycle. -/
structure Paused (timer : Timer) : Prop extends Steady timer where
  whole : timer.counter.toNat % 4 = 0

/-- What holds between instructions. -/
structure Settled (timer : Timer) : Prop extends Paused timer where
  delayCalm : timer.DelayCalm
  windowCalm : timer.WindowCalm

theorem Settled.of_idle {timer : Timer} (whole : timer.counter.toNat % 4 = 0)
    (delay : timer.reloadDelay = 0) (window : timer.reloadWindow = 0) : timer.Settled where
  delay := .inl delay
  window := .inl window
  apart := .inl delay
  wrapped waiting := absurd delay waiting
  loaded windowed := absurd window windowed
  low waiting := absurd delay waiting
  whole := whole
  delayCalm waiting := absurd delay waiting
  windowCalm windowed := absurd window windowed

section Tick

variable {timer : Timer}

@[simp] theorem control_countEdge (before : Bool) (after : Timer) :
    (countEdge before after).control = after.control := by
  unfold countEdge
  split <;> simp

@[simp] theorem control_tick : timer.tick.1.control = timer.control := by
  simp only [tick, progressReload]
  split <;> simp

theorem toNat_counter_tick (timer : Timer) :
    timer.tick.1.counter.toNat = (timer.counter.toNat + 1) % 0x10000 := by
  rw [counter_tick, UInt16.toNat_add]
  rfl

theorem toNat_counter_run (timer : Timer) (cycles : Nat) :
    (timer.run cycles).1.counter.toNat = (timer.counter.toNat + cycles) % 0x10000 := by
  induction cycles generalizing timer with
  | zero => exact (Nat.mod_eq_of_lt timer.counter.toNat_lt).symm
  | succ cycles ih =>
      have rest := ih timer.tick.1
      rwa [toNat_counter_tick, Nat.mod_add_mod, Nat.add_assoc, Nat.add_comm 1] at rest

/-- What a clock cycle can do: count an edge, reload, or bring both countdowns nearer to
their end. -/
inductive Ticked (timer after : Timer) : Prop where
  | falls (nibble : timer.counter.toNat % 16 = 15) (idle : timer.reloadDelay = 0)
      (low : after.input = false) (window : after.reloadWindow = 0)
      (delay : after.reloadDelay = 0 ∨ after.reloadDelay = 4 ∧ after.count = 0)
  | reloads (last : timer.reloadDelay = 1) (delay : after.reloadDelay = 0)
      (window : after.reloadWindow = 4) (count : after.count = after.modulo)
  | passes (more : timer.reloadDelay ≠ 1) (delay : after.reloadDelay = timer.reloadDelay - 1)
      (window : after.reloadWindow = timer.reloadWindow - 1)
      (count : after.count = timer.count) (modulo : after.modulo = timer.modulo)

/-- An edge that falls with the counter does not meet a scheduled reload. -/
theorem Steady.idle_of_falls (steady : timer.Steady) {elapsed : Nat}
    (falls : (timer.change elapsed .tick).Falls) :
    timer.counter.toNat % 16 = 15 ∧ timer.reloadDelay = 0 := by
  have nibble := low_nibble_of_falls timer.counter_tick control_tick falls.1 falls.2
  refine ⟨nibble, ?_⟩
  by_contra scheduled
  rcases steady.low scheduled with low | early
  · exact nomatch low.symm.trans falls.1
  · omega

theorem Steady.ticked (steady : timer.Steady) : Ticked timer timer.tick.1 := by
  by_cases falls : (timer.change 0 .tick).Falls
  · have counted : timer.tick.1 = (timer.uncounted .tick).increment := after_of_falls falls
    obtain ⟨nibble, idle⟩ := steady.idle_of_falls falls
    have more : timer.reloadDelay ≠ 1 := by omega
    refine .falls nibble idle falls.2 ?_ ?_
    -- The counter ends a machine cycle, so an open window closes.
    · have window := steady.window
      rw [counted, reloadWindow_increment]
      simp only [uncounted, progressReload, if_neg more]
      omega
    · rw [counted, reloadDelay_increment]
      split
      next full =>
        refine .inr ⟨rfl, ?_⟩
        rw [count_increment, full]
        rfl
      next =>
        rw [reloadDelay_uncounted_tick, idle]
        exact .inl rfl
  · have plain : timer.tick.1 = timer.uncounted .tick := after_of_not_falls falls
    rw [plain]
    by_cases last : timer.reloadDelay = 1
    · refine .reloads last ?_ ?_ ?_ <;> simp only [uncounted, progressReload, if_pos last]
      rfl
    · refine .passes last ?_ ?_ ?_ ?_ <;> simp only [uncounted, progressReload, if_neg last]

theorem Steady.tick (steady : timer.Steady) : timer.tick.1.Steady := by
  have counter := timer.toNat_counter_tick
  have below := timer.counter.toNat_lt
  have ticked := steady.ticked
  obtain ⟨delay, window, apart, wrapped, loaded, low⟩ := steady
  rcases ticked with ⟨nibble, idle, fallen, shut, scheduled⟩ | ⟨last, idle, opened, count⟩ |
    ⟨more, nearer, closer, count, modulo⟩
  · refine ⟨by omega, by omega, by omega, ?_, by omega, fun _ => .inl fallen⟩
    intro waiting
    rcases scheduled with none | ⟨-, zero⟩
    · exact absurd none waiting
    · exact zero
  · exact ⟨by omega, by omega, by omega, by omega, fun _ => count, by omega⟩
  · refine ⟨by omega, by omega, by omega, ?_, ?_, ?_⟩
    · intro waiting
      exact count.trans (wrapped (by omega))
    · intro windowed
      rw [count, modulo]
      exact loaded (by omega)
    -- The reload is not due yet, so this cycle is not the last one of its machine cycle.
    · intro waiting
      rcases low (by omega) with silent | early
      · refine .inl (.trans ?_ silent)
        exact input_of_succ_of_low timer.counter_tick control_tick (by omega)
      · exact .inr (by omega)

/-- At the end of a machine cycle a scheduled reload has just been scheduled. -/
theorem Steady.delayCalm_tick (steady : timer.Steady)
    (calm : timer.counter.toNat % 4 = 3 ∨ timer.DelayCalm) : timer.tick.1.DelayCalm := by
  have counter := timer.toNat_counter_tick
  have below := timer.counter.toNat_lt
  intro waiting
  rcases steady.ticked with ⟨nibble, -, fallen, -, -⟩ | ⟨-, idle, -, -⟩ | ⟨-, nearer, -, -, -⟩
  · exact ⟨fallen, by omega⟩
  · exact absurd idle waiting
  · have delay := steady.delay
    have scheduled : timer.reloadDelay ≠ 0 := by omega
    rcases calm with last | calm
    · omega
    · obtain ⟨low, early⟩ := calm scheduled
      refine ⟨.trans ?_ low, by omega⟩
      exact input_of_succ_of_low timer.counter_tick control_tick (by omega)

/-- At the end of a machine cycle a window has just been opened. -/
theorem Steady.windowCalm_tick (steady : timer.Steady) (delayCalm : timer.DelayCalm)
    (calm : timer.counter.toNat % 4 = 3 ∨ timer.WindowCalm) : timer.tick.1.WindowCalm := by
  have short (early : timer.counter.toNat % 8 ≠ 7) : timer.tick.1.input = timer.input :=
    input_of_succ_of_low timer.counter_tick control_tick early
  intro windowed
  rcases steady.ticked with ⟨-, -, fallen, -, -⟩ | ⟨last, -, -, -⟩ | ⟨-, -, closer, -, -⟩
  · exact fallen
  · obtain ⟨low, early⟩ := delayCalm (by omega)
    exact (short (by omega)).trans low
  · have window := steady.window
    rcases calm with last | calm
    · omega
    · exact (short (by omega)).trans (calm (by omega))

/-- A clock cycle comes in order. -/
theorem Steady.orderly_tick (steady : timer.Steady) (elapsed : Nat) :
    (timer.change elapsed .tick).Orderly := by
  constructor
  · intro falls
    exact (steady.idle_of_falls falls).2
  · intro writes
    exact nomatch writes

end Tick

/-! ## Machine cycles -/

section Cycles

variable {timer : Timer}

theorem Steady.ticks (steady : timer.Steady) (cycles : Nat) :
    (timer.performAll (List.replicate cycles .tick)).Steady := by
  induction cycles generalizing timer with
  | zero => exact steady
  | succ cycles ih => exact ih steady.tick

theorem Steady.orderly_ticks (steady : timer.Steady) (elapsed cycles : Nat) :
    ∀ change ∈ timer.changes elapsed (List.replicate cycles .tick), change.Orderly := by
  induction cycles generalizing timer elapsed with
  | zero => exact List.forall_mem_nil _
  | succ cycles ih =>
      exact List.forall_mem_cons.mpr ⟨steady.orderly_tick elapsed, ih steady.tick _⟩

/-- The timer after a machine cycle. -/
def cycle (timer : Timer) : Timer := timer.tick.1.tick.1.tick.1.tick.1

theorem performAll_cycles (timer : Timer) (count : Nat) :
    timer.performAll (List.replicate (4 * (count + 1)) .tick) =
      timer.cycle.performAll (List.replicate (4 * count) .tick) := by
  simp only [Nat.mul_succ, List.replicate_succ, performAll]
  rfl

theorem Paused.cycle (paused : timer.Paused) : timer.cycle.Paused := by
  refine ⟨paused.tick.tick.tick.tick, ?_⟩
  have whole := paused.whole
  simp only [Timer.cycle, toNat_counter_tick]
  omega

/-- After a machine cycle a scheduled reload has just been scheduled. -/
theorem Paused.delayCalm_cycle (paused : timer.Paused) : timer.cycle.DelayCalm := by
  refine paused.tick.tick.tick.delayCalm_tick (.inl ?_)
  have whole := paused.whole
  simp only [toNat_counter_tick]
  omega

/-- After another one, an open window has just been opened. -/
theorem Paused.windowCalm_cycle (paused : timer.Paused) (calm : timer.DelayCalm) :
    timer.cycle.WindowCalm := by
  have first := paused.delayCalm_tick (.inr calm)
  have second := paused.tick.delayCalm_tick (.inr first)
  have third := paused.tick.tick.delayCalm_tick (.inr second)
  refine paused.tick.tick.tick.windowCalm_tick third (.inl ?_)
  have whole := paused.whole
  simp only [toNat_counter_tick]
  omega

theorem Settled.cycle (settled : timer.Settled) : timer.cycle.Settled :=
  ⟨settled.toPaused.cycle, settled.delayCalm_cycle, settled.windowCalm_cycle settled.delayCalm⟩

theorem Settled.cycles (settled : timer.Settled) (count : Nat) :
    (timer.performAll (List.replicate (4 * count) .tick)).Settled := by
  induction count generalizing timer with
  | zero => exact settled
  | succ count ih =>
      rw [performAll_cycles]
      exact ih settled.cycle

/-- Two machine cycles bring the timer to rest. -/
theorem Paused.cycle_cycle (paused : timer.Paused) : timer.cycle.cycle.Settled :=
  ⟨paused.cycle.cycle, paused.cycle.delayCalm_cycle,
    paused.cycle.windowCalm_cycle paused.delayCalm_cycle⟩

theorem Paused.cycles (paused : timer.Paused) {count : Nat} (long : 2 ≤ count) :
    (timer.performAll (List.replicate (4 * count) .tick)).Settled := by
  obtain ⟨more, rfl⟩ := Nat.exists_eq_add_of_le' long
  rw [performAll_cycles, performAll_cycles]
  exact paused.cycle_cycle.cycles more

end Cycles

/-! ## Writes -/

section Writes

variable {timer : Timer}

theorem input_of_counter_zero (zero : timer.counter = 0) : timer.input = false := by
  simp [input, zero]

theorem Steady.writeCount (steady : timer.Steady) (value : Byte) :
    (timer.writeCount value).Steady := by
  unfold Timer.writeCount
  split
  next => exact steady
  next shut =>
    refine ⟨.inl rfl, steady.window, .inl rfl, ?_, ?_, ?_⟩
    · exact fun waiting => absurd rfl waiting
    · exact fun windowed => absurd (Nat.pos_of_ne_zero windowed) shut
    · exact fun waiting => absurd rfl waiting

theorem Steady.writeModulo (steady : timer.Steady) (value : Byte) :
    (timer.writeModulo value).Steady := by
  unfold Timer.writeModulo
  split
  next windowed =>
    have idle : timer.reloadDelay = 0 := steady.apart.resolve_right (Nat.ne_of_gt windowed)
    refine ⟨steady.delay, steady.window, steady.apart, ?_, fun _ => rfl, steady.low⟩
    exact fun waiting => absurd idle waiting
  next shut =>
    refine ⟨steady.delay, steady.window, steady.apart, steady.wrapped, ?_, steady.low⟩
    exact fun windowed => absurd (Nat.pos_of_ne_zero windowed) shut

/-- Between instructions no edge falls while a reload is scheduled or its window is
open. -/
theorem Settled.idle_of_high (settled : timer.Settled) (high : timer.input = true) :
    timer.reloadDelay = 0 ∧ timer.reloadWindow = 0 := by
  constructor
  · by_contra waiting
    exact nomatch high.symm.trans (settled.delayCalm waiting).1
  · by_contra windowed
    exact nomatch high.symm.trans (settled.windowCalm windowed)

/-- An edge may wrap the timer register while nothing is scheduled. -/
theorem Steady.of_increment (whole : timer.counter.toNat % 4 = 0)
    (delay : timer.reloadDelay = 0) (window : timer.reloadWindow = 0)
    (low : timer.input = false) : timer.increment.Steady := by
  have later : timer.increment.reloadDelay = if timer.count = 0xFF then 4 else 0 := by
    rw [reloadDelay_increment, delay]
    rfl
  have shut : timer.increment.reloadWindow = 0 := by
    rw [reloadWindow_increment, window]
  refine ⟨?_, .inl shut, .inr shut, ?_, ?_, ?_⟩
  · rw [later, counter_increment]
    split <;> omega
  · intro waiting
    rw [later] at waiting
    split at waiting
    next full =>
      rw [count_increment, full]
      rfl
    next => exact absurd rfl waiting
  · intro windowed
    exact absurd shut windowed
  · intro _
    exact .inl (timer.input_increment.trans low)

/-- A timer that differs from another one in the counter and the control register. -/
structure Regated (before after : Timer) : Prop where
  count : after.count = before.count
  modulo : after.modulo = before.modulo
  delay : after.reloadDelay = before.reloadDelay
  window : after.reloadWindow = before.reloadWindow
  /-- The counter stays where it is or is reset. -/
  counter : after.counter = 0 ∨ after.counter = before.counter

/-- Between instructions the counter may be reset and the gate changed. -/
theorem Settled.regated (settled : timer.Settled) {after : Timer}
    (regated : Regated timer after) : after.Paused := by
  obtain ⟨count, modulo, delay, window, counter⟩ := regated
  have whole : after.counter.toNat % 4 = 0 := by
    rcases counter with zero | kept
    · rw [zero]
      rfl
    · rw [kept, settled.whole]
  have delayed := settled.delay
  have windowed := settled.window
  rw [settled.whole] at delayed windowed
  refine ⟨⟨?_, ?_, ?_, ?_, ?_, ?_⟩, whole⟩
  · rw [delay, whole]
    exact delayed
  · rw [window, whole]
    exact windowed
  · rw [delay, window]
    exact settled.apart
  · rw [delay, count]
    exact settled.wrapped
  · rw [window, count, modulo]
    exact settled.loaded
  · intro waiting
    have early := (settled.delayCalm (delay ▸ waiting)).2
    rcases counter with zero | kept
    · exact .inr (zero ▸ (by decide))
    · exact .inr (kept ▸ early)

/-- An edge that such a change causes leaves the timer paused, too. -/
theorem Settled.countEdge (settled : timer.Settled) {after : Timer}
    (regated : Regated timer after) : (countEdge timer.input after).Paused := by
  have paused := settled.regated regated
  by_cases falls : timer.input = true ∧ after.input = false
  · obtain ⟨high, low⟩ := falls
    obtain ⟨idle, shut⟩ := settled.idle_of_high high
    rw [high, countEdge_of_falls after low]
    refine ⟨.of_increment paused.whole ?_ ?_ low, ?_⟩
    · exact regated.delay.trans idle
    · exact regated.window.trans shut
    · rw [counter_increment, paused.whole]
  · rw [countEdge_of_not_falls _ _ falls]
    exact paused

theorem Settled.resetDivider (settled : timer.Settled) : timer.resetDivider.Settled := by
  have zero : timer.resetDivider.counter = 0 :=
    counter_countEdge timer.input { timer with counter := 0 }
  have low := input_of_counter_zero zero
  refine ⟨?_, fun _ => ⟨low, zero ▸ (by decide)⟩, fun _ => low⟩
  exact settled.countEdge ⟨rfl, rfl, rfl, rfl, .inl rfl⟩

/-- A write between instructions leaves the timer paused, whatever is written. -/
theorem Settled.gated (settled : timer.Settled) (value : Byte) {register : Register}
    (gates : register.gates = true) : (timer.writeRegister value register).Paused := by
  cases register with
  | divider => exact settled.resetDivider.toPaused
  | control => exact settled.countEdge ⟨rfl, rfl, rfl, rfl, .inr rfl⟩
  | count | modulo => exact nomatch gates

/-- A write that cannot make the signal fall leaves the counter as it is, and schedules
nothing. -/
structure Unmoved (before after : Timer) : Prop where
  counter : after.counter = before.counter
  delay : after.reloadDelay ≠ 0 → before.reloadDelay ≠ 0
  window : after.reloadWindow = before.reloadWindow

theorem unmoved_of_ungated (timer : Timer) (value : Byte) {register : Register}
    (ungated : register.gates = false) : Unmoved timer (timer.writeRegister value register) := by
  cases register with
  | divider | control => exact nomatch ungated
  | count =>
      simp only [writeRegister, Timer.writeCount]
      split
      next => exact ⟨rfl, id, rfl⟩
      next => exact ⟨rfl, absurd rfl, rfl⟩
  | modulo =>
      simp only [writeRegister, Timer.writeModulo]
      split <;> exact ⟨rfl, id, rfl⟩

theorem Paused.ungated (paused : timer.Paused) (value : Byte) {register : Register}
    (ungated : register.gates = false) : (timer.writeRegister value register).Paused := by
  refine ⟨?_, (timer.unmoved_of_ungated value ungated).counter ▸ paused.whole⟩
  cases register with
  | divider | control => exact nomatch ungated
  | count => exact paused.writeCount value
  | modulo => exact paused.writeModulo value

theorem Settled.ungated (settled : timer.Settled) (value : Byte) {register : Register}
    (ungated : register.gates = false) : (timer.writeRegister value register).Settled := by
  have unmoved := timer.unmoved_of_ungated value ungated
  have input := timer.input_of_ungated value ungated
  refine ⟨settled.toPaused.ungated value ungated, ?_, ?_⟩
  · intro waiting
    rw [input, unmoved.counter]
    exact settled.delayCalm (unmoved.delay waiting)
  · intro windowed
    rw [input]
    exact settled.windowCalm (unmoved.window ▸ windowed)

end Writes

/-! ## Instructions -/

/-- What an instruction does to the timer: some writes, of which at most one can make the
signal fall, and then whole machine cycles, two or more unless only the divider is
written. -/
structure Bout where
  writes : List (Register × Byte)
  machineCycles : Nat
  lone : writes.Pairwise fun first second =>
    ¬ (first.1.gates = true ∧ second.1.gates = true)
  long : writes = [] ∨ 2 ≤ machineCycles ∨
    1 ≤ machineCycles ∧ ∀ write ∈ writes, write.1 = .divider

/-- Writes, as actions. -/
def writeActions (writes : List (Register × Byte)) : List Action :=
  writes.map fun write => .write write.1 write.2

/-- The actions of an instruction. -/
def Bout.actions (bout : Bout) : List Action :=
  writeActions bout.writes ++ List.replicate (4 * bout.machineCycles) .tick

section Instructions

variable {timer : Timer} {writes : List (Register × Byte)}

/-- Between instructions every action comes in order. -/
theorem Settled.orderly (settled : timer.Settled) (elapsed : Nat) (action : Action) :
    (timer.change elapsed action).Orderly :=
  ⟨fun falls => (settled.idle_of_high falls.1).1, fun _ => settled.apart⟩

/-- A write that cannot make the signal fall comes in order at any time. -/
theorem Steady.orderly_ungated (steady : timer.Steady) (elapsed : Nat) {register : Register}
    (value : Byte) (ungated : register.gates = false) :
    (timer.change elapsed (.write register value)).Orderly := by
  refine ⟨fun falls => ?_, fun _ => steady.apart⟩
  rcases tick_or_gates_of_falls falls with ticks | gates
  · exact nomatch ticks
  · exact nomatch ungated.symm.trans gates

theorem Paused.writeAll (paused : timer.Paused)
    (ungated : ∀ write ∈ writes, write.1.gates = false) (elapsed : Nat) :
    (∀ change ∈ timer.changes elapsed (writeActions writes), change.Orderly) ∧
      (timer.performAll (writeActions writes)).Paused := by
  induction writes generalizing timer with
  | nil => exact ⟨List.forall_mem_nil _, paused⟩
  | cons write writes ih =>
      obtain ⟨first, rest⟩ := List.forall_mem_cons.mp ungated
      obtain ⟨orderly, after⟩ := ih (paused.ungated write.2 first) rest
      exact ⟨List.forall_mem_cons.mpr ⟨paused.orderly_ungated elapsed write.2 first, orderly⟩,
        after⟩

/-- The writes of an instruction come in order. -/
theorem Settled.writeAll (settled : timer.Settled)
    (lone : writes.Pairwise fun first second =>
      ¬ (first.1.gates = true ∧ second.1.gates = true)) (elapsed : Nat) :
    (∀ change ∈ timer.changes elapsed (writeActions writes), change.Orderly) ∧
      (timer.performAll (writeActions writes)).Paused := by
  induction writes generalizing timer with
  | nil => exact ⟨List.forall_mem_nil _, settled.toPaused⟩
  | cons write writes ih =>
      obtain ⟨first, rest⟩ := List.pairwise_cons.mp lone
      have orderly := settled.orderly elapsed (.write write.1 write.2)
      by_cases gates : write.1.gates = true
      · have others : ∀ other ∈ writes, other.1.gates = false := by
          intro other member
          exact Bool.eq_false_iff.mpr fun again => first other member ⟨gates, again⟩
        obtain ⟨later, after⟩ := (settled.gated write.2 gates).writeAll others elapsed
        exact ⟨List.forall_mem_cons.mpr ⟨orderly, later⟩, after⟩
      · obtain ⟨later, after⟩ := ih (settled.ungated write.2 (Bool.eq_false_iff.mpr gates)) rest
        exact ⟨List.forall_mem_cons.mpr ⟨orderly, later⟩, after⟩

theorem Settled.resetDividers (settled : timer.Settled)
    (divider : ∀ write ∈ writes, write.1 = .divider) :
    (timer.performAll (writeActions writes)).Settled := by
  induction writes generalizing timer with
  | nil => exact settled
  | cons write writes ih =>
      obtain ⟨first, rest⟩ := List.forall_mem_cons.mp divider
      refine ih ?_ rest
      simp only [perform, first]
      exact settled.resetDivider

/-- An instruction leaves the timer as it has to be between instructions. -/
theorem Settled.bout (settled : timer.Settled) (bout : Bout) :
    (timer.performAll bout.actions).Settled := by
  rw [Bout.actions, performAll_append]
  rcases bout.long with none | long | ⟨-, divider⟩
  · rw [none]
    exact settled.cycles _
  · exact (settled.writeAll bout.lone 0).2.cycles long
  · exact (settled.resetDividers divider).cycles _

/-- The changes that an instruction makes come in order. -/
theorem Settled.orderly_bout (settled : timer.Settled) (elapsed : Nat) (bout : Bout) :
    ∀ change ∈ timer.changes elapsed bout.actions, change.Orderly := by
  obtain ⟨orderly, paused⟩ := settled.writeAll bout.lone elapsed
  rw [Bout.actions, changes_append]
  intro change made
  rcases List.mem_append.mp made with early | late
  · exact orderly change early
  · exact paused.orderly_ticks _ _ change late

theorem changes_action (timer : Timer) (elapsed : Nat) (actions : List Action) :
    (timer.changes elapsed actions).map Change.action = actions := by
  induction actions generalizing timer elapsed with
  | nil => rfl
  | cons action actions ih =>
      rw [changes, List.map_cons, ih]
      rfl

theorem date_of_write {elapsed : Nat} {change : Change}
    (made : change ∈ timer.changes elapsed (writeActions writes)) : change.date = elapsed := by
  induction writes generalizing timer with
  | nil => exact nomatch made
  | cons write writes ih =>
      rcases List.mem_cons.mp made with rfl | later
      · rfl
      · exact ih later

theorem duration_append (first second : List Action) :
    Action.duration (first ++ second) = Action.duration first + Action.duration second := by
  induction first with
  | nil => exact (Nat.zero_add _).symm
  | cons action first ih =>
      rw [List.cons_append, Action.duration, Action.duration, ih, Nat.add_assoc]

theorem duration_writeActions (writes : List (Register × Byte)) :
    Action.duration (writeActions writes) = 0 := by
  induction writes with
  | nil => rfl
  | cons write writes ih => exact (Nat.zero_add _).trans ih

theorem duration_ticks (cycles : Nat) :
    Action.duration (List.replicate cycles .tick) = cycles := by
  induction cycles with
  | zero => rfl
  | succ cycles ih => rw [List.replicate_succ, Action.duration, ih, Nat.add_comm, Action.cycles]

theorem Bout.duration (bout : Bout) :
    Action.duration bout.actions = 4 * bout.machineCycles := by
  rw [actions, duration_append, duration_writeActions, duration_ticks, Nat.zero_add]

/-- Of an instruction's actions at most one can make the signal fall. -/
theorem Bout.pairwise (bout : Bout) :
    bout.actions.Pairwise fun first second =>
      ¬ (first.gates = true ∧ second.gates = true) := by
  refine List.pairwise_append.mpr ⟨?_, ?_, ?_⟩
  · exact List.pairwise_map.mpr bout.lone
  · rw [List.pairwise_replicate]
    exact .inr (by decide)
  · rintro first - second member ⟨-, gates⟩
    rw [List.eq_of_mem_replicate member] at gates
    exact nomatch gates

/-- A write that can make the signal fall comes before time passes. -/
theorem Bout.early_of_gates (bout : Bout) {elapsed : Nat} {change : Change}
    (made : change ∈ timer.changes elapsed bout.actions)
    (gates : change.action.gates = true) :
    change.date < elapsed + Action.duration bout.actions := by
  rw [bout.duration]
  rw [actions, changes_append] at made
  rcases List.mem_append.mp made with early | late
  · have filled : bout.writes ≠ [] := by
      intro none
      rw [none] at early
      exact nomatch early
    rw [date_of_write early]
    rcases bout.long with none | long | ⟨some, -⟩
    · exact absurd none filled
    · omega
    · omega
  · have member := List.mem_map_of_mem (f := Change.action) late
    rw [changes_action] at member
    rw [List.eq_of_mem_replicate member] at gates
    exact nomatch gates

theorem gatesApart_bouts (timer : Timer) (elapsed : Nat) (bouts : List Bout) :
    (timer.changes elapsed (bouts.flatMap Bout.actions)).Pairwise GatesApart := by
  induction bouts generalizing timer elapsed with
  | nil => exact .nil
  | cons bout bouts ih =>
      rw [List.flatMap_cons, changes_append]
      refine List.pairwise_append.mpr ⟨?_, ih _ _, ?_⟩
      · have lone := bout.pairwise
        rw [← timer.changes_action elapsed bout.actions, List.pairwise_map] at lone
        exact lone.imp fun alone first second => absurd ⟨first, second⟩ alone
      · intro first early second late gates _
        exact Nat.lt_of_lt_of_le (bout.early_of_gates early gates)
          (Nat.le_trans (Nat.le_add_right _ _) (le_date late))

theorem Settled.orderly_bouts (settled : timer.Settled) (elapsed : Nat) (bouts : List Bout) :
    ∀ change ∈ timer.changes elapsed (bouts.flatMap Bout.actions), change.Orderly := by
  induction bouts generalizing timer elapsed with
  | nil => exact List.forall_mem_nil _
  | cons bout bouts ih =>
      rw [List.flatMap_cons, changes_append]
      intro change made
      rcases List.mem_append.mp made with early | late
      · exact settled.orderly_bout elapsed bout change early
      · exact ih (settled.bout bout) _ change late

/-- Whatever a program does, the timer's history is faithful. -/
theorem Settled.faithful (settled : timer.Settled) (idle : timer.reloadDelay = 0)
    (elapsed : Nat) (bouts : List Bout) :
    Faithful (timer.changes elapsed (bouts.flatMap Bout.actions)) :=
  faithful_of_orderly idle (settled.orderly_bouts elapsed bouts)
    (timer.gatesApart_bouts elapsed bouts)

end Instructions

end GameBoy.Timer
