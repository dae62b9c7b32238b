import GameBoy.Proofs.Console.Access

/-!
# Waiting for good

A processor that is halted while no interrupt is enabled never runs an instruction again. A
step lets one machine cycle pass on the board, and leaves the processor as it is.
-/

namespace GameBoy

open Cpu

/-- A halted processor without a pending interrupt lets a machine cycle pass. -/
theorem Cpu.Core.step_of_waiting {β : Type} [Bus β] {core : Core β}
    (alive : core.cpu.fault = none) (running : core.cpu.stopped = false)
    (halted : core.cpu.halted = true) (asked : core.pending = (none, core)) :
    core.activity = .idle ∧ core.step = (.ok idleCycles, core.elapse idleCycles) := by
  have unserved : core.serviceInterrupt = (false, core) := by
    rw [serviceInterrupt, asked]
  constructor
  · simp [activity, alive, running, unserved, halted]
  · simp [step, alive, running, unserved, halted]

namespace Board

theorem enabled_receiveAll (interrupts : InterruptController) (signals : List Lcd.Signal) :
    (receiveAll interrupts signals).1.enabled = interrupts.enabled := by
  induction signals generalizing interrupts with
  | nil => rfl
  | cons signal signals ih =>
      rw [receiveAll, ih]
      cases signal <;> rfl

/-- Time enables no interrupt. -/
theorem enabled_elapse (board : Board) (cycles : Nat) :
    (board.elapse cycles).1.interrupts.enabled = board.interrupts.enabled := by
  refine (enabled_receiveAll _ _).trans ?_
  simp only [runTimer]
  split <;> rfl

end Board

namespace Console

variable {console : Console}

/-- The processor waits, and nothing can wake it. -/
structure Waiting (console : Console) : Prop where
  alive : console.cpu.fault = none
  running : console.cpu.stopped = false
  halted : console.cpu.halted = true
  masked : console.board.interrupts.enabled = 0

theorem Waiting.pending (waiting : console.Waiting) : (Bus.pending console.board).1 = none := by
  change Interrupt.highest (console.board.interrupts.enabled &&& _) = none
  rw [waiting.masked, UInt8.zero_and]
  rfl

theorem Waiting.core_step (waiting : console.Waiting) :
    console.activity = .idle ∧ console.core.step = (.ok 4, console.core.elapse 4) :=
  Core.step_of_waiting waiting.alive waiting.running waiting.halted
    (congrArg (·, console.core) waiting.pending)

theorem Waiting.moveAccesses (waiting : console.Waiting) :
    console.moveAccesses .step = [.elapse 4] := by
  have asked : console.recorded.pending = (none, console.recorded) :=
    congrArg (·, console.recorded) waiting.pending
  have passed := (Core.step_of_waiting waiting.alive waiting.running waiting.halted asked).2
  rw [Console.moveAccesses, passed]
  rfl

theorem Waiting.result_step (waiting : console.Waiting) : console.step.result = .ok 4 :=
  congrArg Prod.fst waiting.core_step.2

theorem Waiting.board_step (waiting : console.Waiting) :
    console.step.console.board = (console.board.elapse 4).1 :=
  congrArg (·.2.bus) waiting.core_step.2

theorem Waiting.step (waiting : console.Waiting) : console.step.console.Waiting := by
  have cpu : console.step.console.cpu = console.cpu := congrArg (·.2.cpu) waiting.core_step.2
  refine ⟨?_, ?_, ?_, ?_⟩
  · exact cpu ▸ waiting.alive
  · exact cpu ▸ waiting.running
  · exact cpu ▸ waiting.halted
  · rw [waiting.board_step, Board.enabled_elapse]
    exact waiting.masked

/-- The console after some steps. -/
def stepped (console : Console) : Nat → Console
  | 0 => console
  | count + 1 => console.step.console.stepped count

theorem stepped_add (console : Console) (first second : Nat) :
    console.stepped (first + second) = (console.stepped first).stepped second := by
  induction first generalizing console with
  | zero => rw [Nat.zero_add, stepped]
  | succ first ih =>
      rw [Nat.succ_add]
      exact ih console.step.console

theorem Waiting.stepped (waiting : console.Waiting) (count : Nat) :
    (console.stepped count).Waiting := by
  induction count generalizing console with
  | zero => exact waiting
  | succ count ih => exact ih waiting.step

end Console

end GameBoy
