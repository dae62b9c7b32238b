import GameBoy.Proofs.Cpu.Faults
import GameBoy.Proofs.Cpu.FlagRegister
import GameBoy.Proofs.Cpu.OpcodeMap

/-!
# Instructions do what the opcode map says

On plain memory, a step that executes an instruction does with the bus, the clock and the
program counter exactly what the opcode map says. An instruction writes what its operands name,
in order, and leaves the program behind itself or where it branches to; fetching it reads as
many bytes as its form asks for.
-/

namespace GameBoy.Memory.Flat

/-- Memory after some writes, the earliest first. -/
def writeAll (memory : Flat) (stores : List (Word × Byte)) : Flat :=
  stores.foldl (fun memory store => memory.write store.1 store.2) memory

theorem writes_writeAll (memory : Flat) (stores : List (Word × Byte)) :
    (memory.writeAll stores).writes.toList = memory.writes.toList ++ stores := by
  induction stores generalizing memory with
  | nil => exact (List.append_nil _).symm
  | cons store stores ih =>
      have first := ih (memory.write store.1 store.2)
      rw [write, Array.toList_push, List.append_assoc] at first
      exact first

end GameBoy.Memory.Flat

namespace GameBoy.Cpu.Core

open Memory

variable {core : Core Flat}

/-! ## Executing -/

theorem bus_writeOperand (core : Core Flat) (target : Operand) (value : Byte) :
    (core.writeOperand target value).bus = core.bus.writeAll (target.stores core value) := by
  cases target <;> rfl

theorem pc_writeOperand (core : Core Flat) (target : Operand) (value : Byte) :
    (core.writeOperand target value).registers.pc = core.registers.pc := by
  cases target <;> rfl

/-- Reading an operand changes nothing, and finds the same behind the instruction. -/
theorem readOperand_setPc (core : Core Flat) (source : Operand) (next : Word) :
    (core.setPc next).readOperand source = ((core.readOperand source).1, core.setPc next) := by
  cases source <;> rfl

theorem bus_push_eq (core : Core Flat) (word : Word) :
    (core.push word).bus = core.bus.writeAll (core.pushes word) := by
  have below : core.registers.sp - 1 - 1 = core.registers.sp - 2 := by grind
  rw [pushes, ← below]
  rfl

/-- Waiting for an interrupt asks for one and changes the processor's state only. -/
theorem halt_keeps (core : Core Flat) :
    core.halt.bus = core.bus ∧ core.halt.registers = core.registers := by
  simp only [halt]
  split
  · exact ⟨rfl, rfl⟩
  · split <;> exact ⟨rfl, rfl⟩

theorem holds_setPc (core : Core Flat) (next : Word) (condition : Condition) :
    condition.holds (core.setPc next).registers = condition.holds core.registers := by
  cases condition <;> rfl

/-- An instruction writes what its operands name, in order. -/
theorem bus_execute (core : Core Flat) (next : Word) (instruction : Instruction) :
    ((core.setPc next).execute instruction).bus =
      core.bus.writeAll (instruction.stores core next) := by
  cases instruction with
  | halt => exact (core.setPc next).halt_keeps.1
  | load target source | increment target | decrement target | shift kind target
  | resetBit index target | setBit index target =>
      simp only [execute, readOperand_setPc]
      rw [bus_writeOperand]
      cases target <;> rfl
  | loadByte target value =>
      simp only [execute]
      rw [bus_writeOperand]
      cases target <;> rfl
  | accumulate operation source | testBit index source =>
      simp only [execute, readOperand_setPc]
      rfl
  | storeAt pointer => cases pointer <;> rfl
  | push pair =>
      simp only [execute]
      rw [bus_push_eq]
      cases pair <;> rfl
  | call condition target =>
      change (if condition.holds core.registers then (core.setPc next).call target
        else core.setPc next).bus =
          core.bus.writeAll (if condition.holds core.registers then core.pushes next else [])
      split
      · exact (core.setPc next).bus_push_eq next
      · rfl
  | restart target => exact (core.setPc next).bus_push_eq next
  | jumpRelative condition displacement | jump condition target | ret condition =>
      simp only [execute]
      split <;> rfl
  | nop | stop | disableInterrupts | enableInterrupts | loadWord target value
  | fetchAt pointer | storeSp address | storePage offset | fetchPage offset | storePageC
  | fetchPageC | store address | fetch address | loadSpHl | loadHlSp displacement | pop pair
  | accumulateByte operation value | incrementPair target | decrementPair target
  | addHl source | addSp displacement | shiftA kind | adjustDecimal | complement | setCarry
  | complementCarry | jumpHl | returnEnabling => rfl

/-- An instruction leaves the program behind itself or where it branches to. -/
theorem pc_execute (core : Core Flat) (next : Word) (instruction : Instruction) :
    ((core.setPc next).execute instruction).registers.pc =
      instruction.destination core next := by
  cases instruction with
  | halt => exact congrArg Registers.pc (core.setPc next).halt_keeps.2
  | load target source | increment target | decrement target | shift kind target
  | resetBit index target | setBit index target =>
      simp only [execute, readOperand_setPc]
      exact pc_writeOperand _ target _
  | loadByte target value => exact pc_writeOperand _ target value
  | accumulate operation source | testBit index source =>
      simp only [execute, readOperand_setPc]
      rfl
  | loadWord target value | pop target | incrementPair target | decrementPair target =>
      exact Registers.pc_setPair _ target _
  | storeAt pointer | fetchAt pointer => cases pointer <;> rfl
  | jumpRelative condition displacement | jump condition target | call condition target
  | ret condition =>
      simp only [execute, Instruction.destination, holds_setPc]
      split <;> rfl
  | enableInterrupts =>
      exact congrArg Registers.pc (State.registers_requestInterrupts (core.setPc next).cpu)
  | nop | stop | disableInterrupts | storeSp address | storePage offset | fetchPage offset
  | storePageC | fetchPageC | store address | fetch address | loadSpHl | loadHlSp displacement
  | push pair | accumulateByte operation value | addHl source | addSp displacement
  | shiftA kind | adjustDecimal | complement | setCarry | complementCarry | jumpHl
  | returnEnabling | restart target => rfl

/-! ## Fetching -/

section
variable (single : core.cpu.repeatFetch = false)
include single

theorem fetchByte_of_single :
    core.fetchByte =
      (core.bus.peek core.registers.pc, core.setPc (core.registers.pc + 1)) := by
  have moves : ¬ (core.read core.registers.pc).2.cpu.repeatFetch = true :=
    Bool.eq_false_iff.mp single
  simp only [fetchByte]
  rw [if_neg moves]
  rfl

/-- Behind its opcode an instruction finds its operands, and the program moves past them. -/
theorem fetchOperands_of_single (form : Form) :
    (core.setPc (core.registers.pc + 1)).fetchOperands form =
      (form.complete core.operandByte core.operandWord,
        core.setPc (core.registers.pc + UInt16.ofNat form.length)) := by
  have second : core.registers.pc + 1 + 1 = core.registers.pc + 2 := UInt16.add_assoc _ _ _
  have third : core.registers.pc + 2 + 1 = core.registers.pc + 3 := UInt16.add_assoc _ _ _
  have byte (address : Word) : (core.setPc address).fetchByte =
      (core.bus.peek address, core.setPc (address + 1)) := fetchByte_of_single single
  cases form with
  | inherent instruction | undefined => rfl
  | byte instruction =>
      simp only [fetchOperands, byte, second]
      rfl
  | word instruction =>
      simp only [fetchOperands, fetchWord, byte, second, third]
      rfl

end

/-! ## Steps -/

/-- A processor with plain memory that is awake does not notice that it looks around. -/
theorem lookedAround_of_awake (awake : core.cpu.halted = false) : core.lookedAround = core := by
  have still : (core.cpu.halted && core.pending.1.isNone) = core.cpu.halted := by
    rw [awake, Bool.false_and]
  rw [lookedAround_eq, still]
  rfl

theorem step_of_unserved (alive : core.cpu.fault = none) (running : core.cpu.stopped = false)
    (awake : core.cpu.halted = false)
    (unserved : core.pending.1 = none ∨ core.cpu.enabled = false) :
    core.step = core.runInstruction := by
  have looks : core.serviceInterrupt = (false, core) := by
    rw [serviceInterrupt_eq, lookedAround_of_awake awake]
    rcases unserved with none | disabled
    · rw [none]
    · rw [disabled]
      split <;> rfl
  rw [step, alive, running, looks]
  simp only [awake, Bool.false_eq_true, if_false]

/-- A step that executes an instruction does what the opcode map says. It takes the clock
cycles that the map gives, the program goes on where the map says, and the writes of the step
are those of the map, in order, before the time passes. -/
theorem step_by_map (core : Core Flat) (alive : core.cpu.fault = none)
    (running : core.cpu.stopped = false) (awake : core.cpu.halted = false)
    (single : core.cpu.repeatFetch = false)
    (unserved : core.pending.1 = none ∨ core.cpu.enabled = false)
    (defined : core.opcode ∉ Opcode.undefined) :
    let cost := Opcode.cost core.opcode core
    let stores := Opcode.stores core.opcode core
    core.step.1 = .ok cost ∧
      core.step.2.registers.pc = Opcode.destination core.opcode core ∧
      core.step.2.bus.writes.toList = core.bus.writes.toList ++ stores ∧
      core.step.2.bus = (core.bus.writeAll stores).elapse cost := by
  intro cost stores
  obtain ⟨length, instruction, spelled, described⟩ := Opcode.exists_describes core defined
  have next : core.registers.pc + UInt16.ofNat (decode core.opcode).length =
      Opcode.next core.opcode core := by
    rw [length]
    rfl
  have ran : core.step =
      (.ok cost,
        (((core.setPc (Opcode.next core.opcode core)).execute instruction).modifyCpu
          State.applyEnableDelay).elapse cost) := by
    have opened : core.fetchByte = (core.opcode, core.setPc (core.registers.pc + 1)) :=
      fetchByte_of_single single
    rw [step_of_unserved alive running awake unserved]
    simp only [runInstruction, opened, fetchOperands_of_single single, spelled, next,
      holds_setPc, described.cost]
    rfl
  have wrote : core.step.2.bus = (core.bus.writeAll stores).elapse cost := by
    rw [ran]
    change (((core.setPc _).execute instruction).bus).elapse cost = _
    rw [bus_execute, described.stores]
  refine ⟨congrArg Prod.fst ran, ?_, ?_, wrote⟩
  · rw [ran]
    change (State.applyEnableDelay _).registers.pc = _
    rw [State.registers_applyEnableDelay]
    exact (pc_execute core _ instruction).trans described.destination
  · rw [wrote]
    exact core.bus.writes_writeAll stores

/-- On memory that is full of calls, one at the end of memory is to
return to its start, and the stack pointer wraps between the two writes. -/
theorem step_by_map_of_calls :
    let core : Core Flat :=
      { cpu := { registers := { sp := 1, pc := 0xFFFE } }
        bus := { cells := .replicate _ 0xCD } }
    core.cpu.fault = none ∧ core.cpu.stopped = false ∧ core.cpu.halted = false ∧
      core.cpu.repeatFetch = false ∧ core.cpu.enabled = false ∧
      core.opcode ∉ Opcode.undefined ∧
      core.step.1 = .ok 24 ∧ core.step.2.registers.pc = 0xCDCD ∧
        core.step.2.bus.writes.toList = [(0, 0x00), (0xFFFF, 0x01)] := by
  intro core
  have cell (address : Word) : core.bus.peek address = 0xCD := by
    simp only [core, Flat.peek, Vector.getElem_replicate]
  have opcode : core.opcode = 0xCD := cell _
  have operand : core.operandWord = 0xCDCD := by
    simp only [operandWord, operandByte, cell]
    rfl
  have defined : core.opcode ∉ Opcode.undefined := by
    rw [opcode]
    decide
  have cycles : Opcode.cost 0xCD core = 24 := rfl
  have target : Opcode.destination 0xCD core = core.operandWord := rfl
  have stores : Opcode.stores 0xCD core = [(0, 0x00), (0xFFFF, 0x01)] := by
    change [((1 : Word) - 1, Word.high (0xFFFE + 3)), ((1 : Word) - 2, Word.low (0xFFFE + 3))] = _
    decide
  have before : core.bus.writes.toList = [] := rfl
  obtain ⟨cost, pc, writes, -⟩ := step_by_map core rfl rfl rfl rfl (.inr rfl) defined
  rw [opcode, cycles] at cost
  rw [opcode, target, operand] at pc
  rw [opcode, stores, before] at writes
  exact ⟨rfl, rfl, rfl, rfl, rfl, defined, cost, pc, writes⟩

end GameBoy.Cpu.Core
