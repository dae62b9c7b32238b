import GameBoy.Cpu.Encoding
import GameBoy.Cpu.Execution

/-!
# Steps of the processor

A step serves an interrupt, waits for one machine cycle, or executes an
instruction to its end; then the bus is told how much time that took. A stopped
processor waits without letting time pass. An undefined opcode faults the
processor: the step fails, and so does every step after it.
-/

namespace GameBoy.Cpu

/-- Clock cycles of one machine cycle, the time of an idle step. -/
def idleCycles : Nat := 4

/-- Clock cycles from the decision to serve an interrupt to its handler. -/
def dispatchCycles : Nat := 20

/-- Address of the joypad register, which wakes a stopped processor. -/
def joypadAddress : Word := 0xFF00

namespace Core

variable {β : Type} [Bus β]

/-- Fetch the operands that a form asks for. -/
def fetchOperands (core : Core β) (form : Form) : Option Instruction × Core β :=
  match form with
  | .inherent instruction => (some instruction, core)
  | .byte instruction =>
    let (value, core) := core.fetchByte
    (some (instruction value), core)
  | .word instruction =>
    let (value, core) := core.fetchWord
    (some (instruction value), core)
  | .undefined => (none, core)

/-- Latch a fault. -/
def raiseFault (core : Core β) (fault : Fault) : Core β :=
  let core := core.report (.illegalOpcode fault core.registers)
  core.modifyCpu fun cpu => { cpu with fault := some fault }

/-- Fetch and execute one instruction; the result is its cost. -/
def runInstruction (core : Core β) : Except Fault Nat × Core β :=
  let address := core.registers.pc
  let (opcode, core) := core.fetchByte
  match core.fetchOperands (decode opcode) with
  | (none, core) =>
    let fault : Fault := { opcode, address }
    (.error fault, core.raiseFault fault)
  | (some instruction, core) =>
    let cycles := instruction.cost (instruction.condition.holds core.registers)
    let core := (core.execute instruction).modifyCpu State.applyEnableDelay
    (.ok cycles, core.elapse cycles)

/-- Enter the handler of an interrupt. When the next fetch was to be repeated, the
address on the stack is that of the instruction before, the halt. -/
def dispatch (core : Core β) (interrupt : Interrupt) : Core β :=
  let core := core.modifyCpu State.disableInterrupts
  let core := core.acknowledge interrupt
  let pc := core.registers.pc
  let source := if core.cpu.repeatFetch then pc - 1 else pc
  let core := core.modifyCpu fun cpu => { cpu with repeatFetch := false }
  let core := (core.push source).setPc interrupt.vector
  core.report (.dispatched interrupt source interrupt.vector)

/-- Look for an interrupt. Any pending one ends waiting; with interrupts enabled
it is dispatched, and the result says so. -/
def serviceInterrupt (core : Core β) : Bool × Core β :=
  match core.pending with
  | (none, core) => (false, core)
  | (some interrupt, core) =>
    let core := core.modifyCpu fun cpu => { cpu with halted := false }
    if core.cpu.enabled then (true, core.dispatch interrupt) else (false, core)

/-- Leave the stopped state once a selected button line is low. -/
def awaitButton (core : Core β) : Core β :=
  let (lines, core) := core.read joypadAddress
  if lines &&& 0x0F != 0x0F then
    let core := core.report (.resumed core.registers.pc)
    core.modifyCpu fun cpu => { cpu with stopped := false }
  else core

/-- One step; the result is the number of clock cycles, or the fault. -/
def step (core : Core β) : Except Fault Nat × Core β :=
  match core.cpu.fault with
  | some fault => (.error fault, core)
  | none =>
    if core.cpu.stopped then (.ok idleCycles, core.awaitButton)
    else
      match core.serviceInterrupt with
      | (true, core) => (.ok dispatchCycles, core.elapse dispatchCycles)
      | (false, core) =>
        if core.cpu.halted then (.ok idleCycles, core.elapse idleCycles)
        else core.runInstruction

/-- An instruction that is executed takes at least one machine cycle. -/
theorem four_le_of_runInstruction {core next : Core β} {cycles : Nat}
    (ran : core.runInstruction = (.ok cycles, next)) : 4 ≤ cycles := by
  simp only [runInstruction] at ran
  split at ran
  · simp at ran
  · simp only [Prod.mk.injEq, Except.ok.injEq] at ran
    exact ran.1 ▸ Instruction.four_le_cost _ _

/-- A step that succeeds takes at least one machine cycle. -/
theorem four_le_of_step {core next : Core β} {cycles : Nat}
    (ran : core.step = (.ok cycles, next)) : 4 ≤ cycles := by
  simp only [step] at ran
  split at ran
  · simp at ran
  · split at ran
    · simp only [Prod.mk.injEq, Except.ok.injEq] at ran
      exact ran.1 ▸ Nat.le_refl 4
    · split at ran
      · simp only [Prod.mk.injEq, Except.ok.injEq] at ran
        exact ran.1 ▸ (by decide : 4 ≤ dispatchCycles)
      · split at ran
        · simp only [Prod.mk.injEq, Except.ok.injEq] at ran
          exact ran.1 ▸ Nat.le_refl 4
        · exact four_le_of_runInstruction ran

end Core

end GameBoy.Cpu
