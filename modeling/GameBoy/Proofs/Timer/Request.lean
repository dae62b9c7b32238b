import GameBoy.Proofs.Timer.Alignment
import Mathlib.Algebra.Group.Nat.Defs

/-!
# When the timer requests its interrupt

While the processor leaves a running timer alone, its registers foretell the next request.
The watched signal falls whenever the counter comes to a multiple of the period. As many edges
have to fall as the timer register is short of its wrap, and the reload follows the last one;
or a reload is scheduled already. The cycles until then are counted down one by one, and they
are never more than it takes to count through the whole register.
-/

namespace GameBoy.Timer

/-- Clock cycles between two falling edges of the watched signal, while the timer runs. -/
def period (timer : Timer) : Nat :=
  match timer.control.toNat % 4 with
  | 0 => 1024
  | 1 => 16
  | 2 => 64
  | _ => 256

/-- Clock cycles until the next request, if nothing is written meanwhile. -/
def due (timer : Timer) : Nat :=
  if timer.reloadDelay = 0 then
    (256 - timer.count.toNat) * timer.period - timer.counter.toNat % timer.period + reloadCycles
  else timer.reloadDelay

variable {timer : Timer}

theorem period_eq (timer : Timer) : timer.period = 2 ^ (timer.watchedBit + 1) := by
  have choices : timer.control.toNat % 4 = 0 ∨ timer.control.toNat % 4 = 1 ∨
      timer.control.toNat % 4 = 2 ∨ timer.control.toNat % 4 = 3 := by
    omega
  rcases choices with choice | choice | choice | choice <;> simp [period, watchedBit, choice]

theorem period_cases (timer : Timer) :
    timer.period = 1024 ∨ timer.period = 16 ∨ timer.period = 64 ∨ timer.period = 256 := by
  unfold period
  split <;> simp

@[simp] theorem period_tick (timer : Timer) : timer.tick.1.period = timer.period := by
  simp only [period, control_tick]

@[simp] theorem running_tick (timer : Timer) : timer.tick.1.running = timer.running := by
  simp only [Timer.running, control_tick]

theorem due_of_idle (idle : timer.reloadDelay = 0) :
    timer.due = (256 - timer.count.toNat) * timer.period -
      timer.counter.toNat % timer.period + 4 :=
  if_pos idle

theorem due_of_scheduled (scheduled : timer.reloadDelay ≠ 0) : timer.due = timer.reloadDelay :=
  if_neg scheduled

/-- The timer counts through its whole register at most, and reloads then. -/
theorem Steady.due_le (steady : timer.Steady) : timer.due ≤ 256 * timer.period + 4 := by
  by_cases idle : timer.reloadDelay = 0
  · rw [due_of_idle idle]
    have edges : (256 - timer.count.toNat) * timer.period ≤ 256 * timer.period :=
      Nat.mul_le_mul_right _ (Nat.sub_le _ _)
    omega
  · have delay := steady.delay
    rw [due_of_scheduled idle]
    omega

theorem due_pos (timer : Timer) : 0 < timer.due := by
  by_cases idle : timer.reloadDelay = 0
  · rw [due_of_idle idle]
    exact Nat.succ_pos _
  · rw [due_of_scheduled idle]
    exact Nat.pos_of_ne_zero idle

/-- A request comes in the last cycle before it is due. -/
theorem raised_tick_iff (timer : Timer) : timer.tick.2 = true ↔ timer.due = 1 := by
  rw [raised_tick, decide_eq_true_iff]
  by_cases idle : timer.reloadDelay = 0
  · rw [due_of_idle idle, idle]
    omega
  · rw [due_of_scheduled idle]

/-- The signal falls with the counter when that comes to a multiple of the period. -/
theorem falls_tick_iff (running : timer.running = true) (elapsed : Nat) :
    (timer.change elapsed .tick).Falls ↔ (timer.counter.toNat + 1) % timer.period = 0 := by
  have below := timer.counter.toNat_lt
  have later : timer.tick.1.input = false ↔
      ¬ ((timer.counter.toNat + 1) % 0x10000).testBit timer.watchedBit = true := by
    rw [← Bool.not_eq_true, input_iff_of_succ timer.counter_tick control_tick]
    simp [running]
  have now : timer.input = true ↔ timer.counter.toNat.testBit timer.watchedBit = true := by
    rw [input_iff]
    simp [running]
  rw [period_eq]
  refine (and_congr now later).trans ?_
  simp only [Nat.testBit_eq_decide_div_mod_eq, decide_eq_true_iff]
  rcases timer.watchedBit_cases with bit | bit | bit | bit <;> rw [bit] <;> omega

/-- The place within a period moves on, and begins anew where the signal falls. -/
theorem phase_tick (timer : Timer) :
    timer.tick.1.counter.toNat % timer.period =
      if (timer.counter.toNat + 1) % timer.period = 0 then 0
      else timer.counter.toNat % timer.period + 1 := by
  rw [toNat_counter_tick]
  rcases timer.period_cases with period | period | period | period <;>
    rw [period] <;> split <;> omega

/-- While no reload is scheduled, a cycle counts an edge or comes nearer to one. -/
theorem due_tick_of_idle (running : timer.running = true) (idle : timer.reloadDelay = 0) :
    timer.tick.1.due + 1 = timer.due := by
  have phase := timer.phase_tick
  have delay : (timer.uncounted .tick).reloadDelay = 0 := by
    rw [reloadDelay_uncounted_tick, idle]
  have count : (timer.uncounted .tick).count = timer.count := by
    simp [uncounted, progressReload, idle]
  have room := timer.count.toNat_lt
  have periods := timer.period_cases
  rw [due_of_idle idle]
  by_cases falls : (timer.change 0 .tick).Falls
  · have counted : timer.tick.1 = (timer.uncounted .tick).increment := after_of_falls falls
    have edge := (falls_tick_iff running 0).mp falls
    rw [if_pos edge] at phase
    by_cases full : timer.count = 0xFF
    -- The last edge wraps the register and schedules the reload.
    · have scheduled : timer.tick.1.reloadDelay = 4 := by
        rw [counted, reloadDelay_increment, count, if_pos full]
        rfl
      rw [due_of_scheduled (by omega), scheduled, full]
      generalize timer.period = period at *
      rcases periods with rfl | rfl | rfl | rfl <;>
        simp only [UInt8.reduceToNat] <;> omega
    · have unscheduled : timer.tick.1.reloadDelay = 0 := by
        rw [counted, reloadDelay_increment, count, if_neg full, delay]
      have next : timer.tick.1.count.toNat = timer.count.toNat + 1 := by
        have short : timer.count.toNat ≠ 255 := fun same => full (UInt8.toNat_inj.mp same)
        rw [counted, count_increment, count, UInt8.toNat_add, UInt8.toNat_one]
        exact Nat.mod_eq_of_lt (by omega)
      rw [due_of_idle unscheduled, period_tick, phase, next]
      generalize timer.period = period at *
      rcases periods with rfl | rfl | rfl | rfl <;> omega
  · have plain : timer.tick.1 = timer.uncounted .tick := after_of_not_falls falls
    have between := mt (falls_tick_iff running 0).mpr falls
    rw [if_neg between] at phase
    have unscheduled : timer.tick.1.reloadDelay = 0 := plain ▸ delay
    have same : timer.tick.1.count = timer.count := plain ▸ count
    rw [due_of_idle unscheduled, period_tick, phase, same]
    generalize timer.period = period at *
    rcases periods with rfl | rfl | rfl | rfl <;> omega

/-- A cycle without a request brings the next one nearer. -/
theorem Steady.due_tick (steady : timer.Steady) (running : timer.running = true)
    (silent : timer.tick.2 = false) : timer.tick.1.due + 1 = timer.due := by
  by_cases idle : timer.reloadDelay = 0
  · exact due_tick_of_idle running idle
  · have more : timer.reloadDelay ≠ 1 := by
      rw [raised_tick, decide_eq_false_iff_not] at silent
      exact silent
    rcases steady.ticked with ⟨-, none, -⟩ | ⟨last, -⟩ | ⟨-, nearer, -⟩
    · exact absurd none idle
    · exact absurd last more
    · rw [due_of_scheduled idle, due_of_scheduled (by omega), nearer]
      omega

/-- Left alone, a running timer counts down to its next request. -/
theorem Steady.due_run (steady : timer.Steady) (running : timer.running = true) {cycles : Nat}
    (early : cycles < timer.due) : (timer.run cycles).1.due + cycles = timer.due := by
  induction cycles generalizing timer with
  | zero => rfl
  | succ cycles ih =>
      have silent : timer.tick.2 = false := by
        rw [← Bool.not_eq_true, raised_tick_iff]
        omega
      have nearer := steady.due_tick running silent
      have rest := ih steady.tick (timer.running_tick.trans running) (by omega)
      change (timer.tick.1.run cycles).1.due + (cycles + 1) = timer.due
      omega

/-- Left alone, a running timer requests its interrupt when it is due, and not before. -/
theorem Steady.raised_run_iff (steady : timer.Steady) (running : timer.running = true)
    {cycles : Nat} (early : cycles < timer.due) :
    (timer.run cycles).1.tick.2 = true ↔ cycles + 1 = timer.due := by
  have left := steady.due_run running early
  rw [raised_tick_iff]
  omega

end GameBoy.Timer
