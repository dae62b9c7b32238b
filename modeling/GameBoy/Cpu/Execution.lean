import GameBoy.Cpu.Core

/-!
# Executing instructions

The meaning of each instruction as a function on the core. The program counter
is already behind the instruction, and its operands are part of it.
-/

namespace GameBoy.Cpu

/-- First address of the page that the short loads and stores reach. -/
def highPage : Word := 0xFF00

/-- Address of the divider, which a stop instruction resets. -/
def dividerAddress : Word := 0xFF04

namespace Core

variable {β : Type} [Bus β]

/-- Load the accumulator from an address. -/
def loadA (core : Core β) (address : Word) : Core β :=
  let (value, core) := core.read address
  core.modifyRegisters fun registers => { registers with a := value }

/-- Return to the address on the stack. -/
def popPc (core : Core β) : Core β :=
  let (target, core) := core.pop
  core.setPc target

/-- Push the program counter and continue elsewhere. -/
def call (core : Core β) (target : Word) : Core β :=
  (core.push core.registers.pc).setPc target

/-- Wait for an interrupt. With interrupts disabled and one already pending the
processor does not wait, and the next opcode is fetched twice. -/
def halt (core : Core β) : Core β :=
  if core.cpu.enabled then core.modifyCpu fun cpu => { cpu with halted := true }
  else
    let (interrupt, core) := core.pending
    if interrupt.isSome then core.modifyCpu fun cpu => { cpu with repeatFetch := true }
    else core.modifyCpu fun cpu => { cpu with halted := true }

/-- Reset the divider and wait for a button. -/
def stop (core : Core β) : Core β :=
  let core := core.write dividerAddress 0
  let core := core.modifyCpu fun cpu => { cpu with stopped := true }
  core.report (.stopped (core.registers.pc - 2))

/-- The core after an instruction. -/
def execute (core : Core β) (instruction : Instruction) : Core β :=
  match instruction with
  | .nop => core
  | .stop => core.stop
  | .halt => core.halt
  | .disableInterrupts => core.modifyCpu State.disableInterrupts
  | .enableInterrupts => core.modifyCpu State.requestInterrupts
  | .load target source =>
    let (value, core) := core.readOperand source
    core.writeOperand target value
  | .loadByte target value => core.writeOperand target value
  | .loadWord target value => core.modifyRegisters (·.setPair target value)
  | .storeAt pointer =>
    let (address, registers) := core.registers.follow pointer
    (core.modifyRegisters fun _ => registers).write address registers.a
  | .fetchAt pointer =>
    let (address, registers) := core.registers.follow pointer
    (core.modifyRegisters fun _ => registers).loadA address
  | .storeSp address =>
    let sp := core.registers.sp
    (core.write address sp.low).write (address + 1) sp.high
  | .storePage offset => core.write (highPage + offset.toUInt16) core.registers.a
  | .fetchPage offset => core.loadA (highPage + offset.toUInt16)
  | .storePageC => core.write (highPage + core.registers.c.toUInt16) core.registers.a
  | .fetchPageC => core.loadA (highPage + core.registers.c.toUInt16)
  | .store address => core.write address core.registers.a
  | .fetch address => core.loadA address
  | .loadSpHl => core.modifyRegisters fun registers =>
    registers.setPair .sp (registers.pair .hl)
  | .loadHlSp displacement => core.modifyRegisters fun registers =>
    let (sum, flags) := addDisplacement registers.sp displacement
    (registers.setFlags flags).setPair .hl sum
  | .push pair => core.push (core.registers.pair pair)
  | .pop pair =>
    let (value, core) := core.pop
    core.modifyRegisters (·.setPair pair value)
  | .accumulate operation source =>
    let (value, core) := core.readOperand source
    core.modifyRegisters (·.accumulate operation value)
  | .accumulateByte operation value => core.modifyRegisters (·.accumulate operation value)
  | .increment target =>
    let (value, core) := core.readOperand target
    (core.modifyRegisters (·.noteIncrement value)).writeOperand target (value + 1)
  | .decrement target =>
    let (value, core) := core.readOperand target
    (core.modifyRegisters (·.noteDecrement value)).writeOperand target (value - 1)
  | .incrementPair target => core.modifyRegisters fun registers =>
    registers.setPair target (registers.pair target + 1)
  | .decrementPair target => core.modifyRegisters fun registers =>
    registers.setPair target (registers.pair target - 1)
  | .addHl source => core.modifyRegisters fun registers =>
    registers.addToHl (registers.pair source)
  | .addSp displacement => core.modifyRegisters fun registers =>
    let (sum, flags) := addDisplacement registers.sp displacement
    (registers.setFlags flags).setPair .sp sum
  | .shiftA shift => core.modifyRegisters fun registers =>
    let result := shift.apply registers.a (registers.flag .carry)
    { registers.setFlags { result.flags with zero := false } with a := result.value }
  | .adjustDecimal => core.modifyRegisters Registers.adjustDecimal
  | .complement => core.modifyRegisters Registers.complement
  | .setCarry => core.modifyRegisters (·.assignCarry true)
  | .complementCarry => core.modifyRegisters fun registers =>
    registers.assignCarry (!registers.flag .carry)
  | .jumpRelative condition displacement =>
    if condition.holds core.registers then
      core.setPc (core.registers.pc + Word.ofSigned displacement)
    else core
  | .jump condition target =>
    if condition.holds core.registers then core.setPc target else core
  | .jumpHl => core.setPc (core.registers.pair .hl)
  | .call condition target =>
    if condition.holds core.registers then core.call target else core
  | .ret condition => if condition.holds core.registers then core.popPc else core
  | .returnEnabling => core.popPc.modifyCpu fun cpu => { cpu with enabled := true }
  | .restart target => core.call target
  | .shift shift target =>
    let (value, core) := core.readOperand target
    let result := shift.apply value (core.registers.flag .carry)
    (core.modifyRegisters (·.setFlags result.flags)).writeOperand target result.value
  | .testBit index source =>
    let (value, core) := core.readOperand source
    core.modifyRegisters (·.noteBit index value)
  | .resetBit index target =>
    let (value, core) := core.readOperand target
    core.writeOperand target (value.clear index)
  | .setBit index target =>
    let (value, core) := core.readOperand target
    core.writeOperand target (value.set index)

end Core

end GameBoy.Cpu
