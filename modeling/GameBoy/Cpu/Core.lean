import GameBoy.Cpu.Bus
import GameBoy.Cpu.Instruction

/-!
# The processor core

The core joins the processor's state with a bus. Its operations read and write
memory and registers, fetch operands behind the program counter and use the
stack, which grows downwards and holds the low byte of a word at the lower
address. Every operation takes the core and returns the core after it; events
gather in the journal.
-/

namespace GameBoy.Cpu

/-- The state of the processor. -/
structure State where
  registers : Registers := {}
  /-- Whether interrupts are dispatched. -/
  enabled : Bool := false
  /-- Waiting for an interrupt to be requested. -/
  halted : Bool := false
  /-- Waiting, with all clocks at rest, for a button line to go low. -/
  stopped : Bool := false
  /-- The next fetch leaves the program counter where it is. -/
  repeatFetch : Bool := false
  /-- Interrupts were asked for by the instruction under way. -/
  enableRequested : Bool := false
  /-- Interrupts become enabled at the end of the next instruction. -/
  enableArmed : Bool := false
  /-- The undefined opcode that ended the program. -/
  fault : Option Fault := none
  deriving DecidableEq, Repr

namespace State

/-- The processor at power-on, about to run a boot program. -/
def powerOn : State := {}

/-- The processor as a boot program leaves it. -/
def afterBoot : State := { registers := .afterBoot }

/-- Interrupts asked for during one instruction become enabled after the next. -/
def applyEnableDelay (state : State) : State :=
  if state.enableArmed then { state with enabled := true, enableArmed := false }
  else if state.enableRequested then
    { state with enableRequested := false, enableArmed := true }
  else state

/-- Disable interrupts and forget any delayed request to enable them. -/
def disableInterrupts (state : State) : State :=
  { state with enabled := false, enableRequested := false, enableArmed := false }

/-- Ask for interrupts, unless they are enabled already. -/
def requestInterrupts (state : State) : State :=
  if state.enabled then state else { state with enableRequested := true }

end State

/-- A processor, the bus it is connected to, and the events so far. -/
structure Core (β : Type) where
  cpu : State
  bus : β
  journal : Array Event := #[]

namespace Core

variable {β : Type}

/-- The register file. -/
@[inline] def registers (core : Core β) : Registers := core.cpu.registers

/-- Change the processor's state. -/
@[inline] def modifyCpu (core : Core β) (change : State → State) : Core β :=
  { core with cpu := change core.cpu }

/-- Change the register file. -/
@[inline] def modifyRegisters (core : Core β) (change : Registers → Registers) : Core β :=
  { core with cpu := { core.cpu with registers := change core.cpu.registers } }

/-- Continue at an address. -/
@[inline] def setPc (core : Core β) (address : Word) : Core β :=
  core.modifyRegisters fun registers => { registers with pc := address }

/-- Write an event into the journal. -/
@[inline] def report (core : Core β) (event : Event) : Core β :=
  { core with journal := core.journal.push event }

variable [Bus β]

/-- Read a byte. -/
@[inline] def read (core : Core β) (address : Word) : Byte × Core β :=
  let (value, bus) := AddressSpace.read core.bus address
  (value, { core with bus })

/-- Write a byte. -/
@[inline] def write (core : Core β) (address : Word) (value : Byte) : Core β :=
  let (bus, events) := AddressSpace.write core.bus address value
  { core with bus, journal := core.journal ++ events }

/-- Let time pass on the bus. -/
@[inline] def elapse (core : Core β) (cycles : Nat) : Core β :=
  let (bus, events) := AddressSpace.elapse core.bus cycles
  { core with bus, journal := core.journal ++ events }

/-- The interrupt to serve next. -/
@[inline] def pending (core : Core β) : Option Interrupt × Core β :=
  let (interrupt, bus) := Bus.pending core.bus
  (interrupt, { core with bus })

/-- Confirm that an interrupt is served. -/
@[inline] def acknowledge (core : Core β) (interrupt : Interrupt) : Core β :=
  let (bus, events) := Bus.acknowledge core.bus interrupt
  { core with bus, journal := core.journal ++ events }

/-- Read the byte at the program counter and move past it. When the fetch is to
be repeated, the program counter stays, once. -/
def fetchByte (core : Core β) : Byte × Core β :=
  let (value, core) := core.read core.registers.pc
  if core.cpu.repeatFetch then
    (value, core.modifyCpu fun cpu => { cpu with repeatFetch := false })
  else (value, core.setPc (core.registers.pc + 1))

/-- Fetch two bytes as a word, low byte first. -/
def fetchWord (core : Core β) : Word × Core β :=
  let (low, core) := core.fetchByte
  let (high, core) := core.fetchByte
  (Word.ofBytes high low, core)

/-- Move the stack pointer down by one and write a byte there. -/
def pushByte (core : Core β) (value : Byte) : Core β :=
  let core := core.modifyRegisters fun registers => { registers with sp := registers.sp - 1 }
  core.write core.registers.sp value

/-- Push a word, high byte first. -/
def push (core : Core β) (value : Word) : Core β :=
  (core.pushByte value.high).pushByte value.low

/-- Pop the word that was pushed last. -/
def pop (core : Core β) : Word × Core β :=
  let (low, core) := core.read core.registers.sp
  let (high, core) := core.read (core.registers.sp + 1)
  (Word.ofBytes high low,
    core.modifyRegisters fun registers => { registers with sp := registers.sp + 2 })

/-- The value of a byte operand. -/
def readOperand (core : Core β) (operand : Operand) : Byte × Core β :=
  match operand with
  | .b => (core.registers.b, core)
  | .c => (core.registers.c, core)
  | .d => (core.registers.d, core)
  | .e => (core.registers.e, core)
  | .h => (core.registers.h, core)
  | .l => (core.registers.l, core)
  | .atHl => core.read (core.registers.pair .hl)
  | .a => (core.registers.a, core)

/-- Replace the value of a byte operand. -/
def writeOperand (core : Core β) (operand : Operand) (value : Byte) : Core β :=
  match operand with
  | .b => core.modifyRegisters fun registers => { registers with b := value }
  | .c => core.modifyRegisters fun registers => { registers with c := value }
  | .d => core.modifyRegisters fun registers => { registers with d := value }
  | .e => core.modifyRegisters fun registers => { registers with e := value }
  | .h => core.modifyRegisters fun registers => { registers with h := value }
  | .l => core.modifyRegisters fun registers => { registers with l := value }
  | .atHl => core.write (core.registers.pair .hl) value
  | .a => core.modifyRegisters fun registers => { registers with a := value }

end Core

/-- The address in a pointer register, and the registers after it was used. -/
def Registers.follow (registers : Registers) (pointer : Pointer) : Word × Registers :=
  match pointer with
  | .bc => (registers.pair .bc, registers)
  | .de => (registers.pair .de, registers)
  | .hlIncrement => (registers.pair .hl, registers.setPair .hl (registers.pair .hl + 1))
  | .hlDecrement => (registers.pair .hl, registers.setPair .hl (registers.pair .hl - 1))

end GameBoy.Cpu
