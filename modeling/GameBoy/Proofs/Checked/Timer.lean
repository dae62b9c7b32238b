import GameBoy.Proofs.Checked.Number
import GameBoy.Timer
import Mathlib.Data.Nat.Bitwise

/-!
# The timer with checked operations

The two countdowns of a reload step down by one, and the watched bit is found by
shifting a mask. The timer whose countdowns and masks are checked does what the
timer does, in every state.
-/

namespace GameBoy.Timer

open Checked

/-- The watched bit, found with a mask. -/
def checkedInput (timer : Timer) : Option Bool := do
  let mask ← shiftLeft? 16 1 timer.watchedBit
  pure (timer.running && timer.counter.toNat &&& mask != 0)

/-- Count the edge that a change caused. -/
def checkedCountEdge (before : Bool) (after : Timer) : Option Timer := do
  let now ← after.checkedInput
  pure (if before && !now then after.increment else after)

/-- Bring a countdown one cycle nearer to its end. -/
def countDown? (cycles : Nat) : Option Nat :=
  if 0 < cycles then difference? cycles 1 else some cycles

/-- Bring both countdowns one cycle nearer. -/
def checkedProgressReload (timer : Timer) : Option (Timer × Bool) := do
  let reloadWindow ← countDown? timer.reloadWindow
  if 0 < timer.reloadDelay then do
    let reloadDelay ← difference? timer.reloadDelay 1
    if reloadDelay = 0 then
      pure ({ timer with count := timer.modulo, reloadDelay, reloadWindow := reloadCycles },
        true)
    else pure ({ timer with reloadDelay, reloadWindow }, false)
  else pure ({ timer with reloadWindow }, false)

/-- One clock cycle. -/
def checkedTick (timer : Timer) : Option (Timer × Bool) := do
  let (timer, raised) ← timer.checkedProgressReload
  let before ← timer.checkedInput
  let timer ← checkedCountEdge before { timer with counter := timer.counter + 1 }
  pure (timer, raised)

/-- A number of clock cycles. -/
def checkedRun (timer : Timer) : Nat → Option (Timer × Nat)
  | 0 => pure (timer, 0)
  | cycles + 1 => do
    let (timer, raised) ← timer.checkedTick
    let (timer, requests) ← timer.checkedRun cycles
    pure (timer, raised.toNat + requests)

/-- Reset the counter. -/
def checkedResetDivider (timer : Timer) : Option Timer := do
  let before ← timer.checkedInput
  checkedCountEdge before { timer with counter := 0 }

/-- Change the gate. -/
def checkedWriteControl (timer : Timer) (value : Byte) : Option Timer := do
  let before ← timer.checkedInput
  checkedCountEdge before { timer with control := value &&& controlBits }

variable (timer : Timer)

theorem watchedBit_lt : timer.watchedBit < 16 := by
  unfold watchedBit
  split <;> decide

theorem checkedInput_eq : timer.checkedInput = some timer.input := by
  have short := timer.watchedBit_lt
  have fits : 2 ^ timer.watchedBit < 2 ^ 16 := Nat.pow_lt_pow_right (by decide) short
  rw [checkedInput, shiftLeft?_of_lt short, Nat.one_mul, Nat.mod_eq_of_lt fits]
  simp only [input, Option.bind_eq_bind, Option.bind_some, Option.pure_def,
    Nat.and_two_pow]
  cases timer.counter.toNat.testBit timer.watchedBit with
  | false => simp
  | true => simp

theorem checkedCountEdge_eq (before : Bool) (after : Timer) :
    checkedCountEdge before after = some (countEdge before after) := by
  rw [checkedCountEdge, checkedInput_eq]
  rfl

theorem countDown?_eq (cycles : Nat) : countDown? cycles = some (cycles - 1) := by
  by_cases positive : 0 < cycles
  · rw [countDown?, if_pos positive, difference?_of_le positive]
  · rw [countDown?, if_neg positive, Nat.eq_zero_of_not_pos positive]

theorem checkedProgressReload_eq :
    timer.checkedProgressReload = some timer.progressReload := by
  rw [checkedProgressReload, countDown?_eq, Option.bind_eq_bind, Option.bind_some,
    progressReload]
  by_cases scheduled : 0 < timer.reloadDelay
  · rw [if_pos scheduled, difference?_of_le scheduled, Option.bind_some]
    by_cases last : timer.reloadDelay = 1
    · rw [last, if_pos rfl, if_pos rfl]
      rfl
    · rw [if_neg last, if_neg (by omega)]
      rfl
  · have none_scheduled := Nat.eq_zero_of_not_pos scheduled
    rw [if_neg scheduled, none_scheduled, if_neg Nat.zero_ne_one]
    rfl

theorem checkedTick_eq : timer.checkedTick = some timer.tick := by
  simp only [checkedTick, checkedProgressReload_eq, checkedInput_eq, checkedCountEdge_eq]
  rfl

theorem checkedRun_eq (cycles : Nat) : timer.checkedRun cycles = some (timer.run cycles) := by
  induction cycles generalizing timer with
  | zero => rfl
  | succ cycles ih =>
      simp only [checkedRun, checkedTick_eq, Option.bind_eq_bind, Option.bind_some, ih]
      rfl

theorem checkedResetDivider_eq : timer.checkedResetDivider = some timer.resetDivider := by
  simp only [checkedResetDivider, checkedInput_eq, checkedCountEdge_eq]
  rfl

theorem checkedWriteControl_eq (value : Byte) :
    timer.checkedWriteControl value = some (timer.writeControl value) := by
  simp only [checkedWriteControl, checkedInput_eq, checkedCountEdge_eq]
  rfl

end GameBoy.Timer
