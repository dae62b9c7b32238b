import GameBoy.Memory.Flat
import GameBoy.Proofs.Cpu.Simulation

/-!
# What an instruction reads

Besides its own bytes, an instruction reads those that its operands name: at most two, at
addresses that the registers and the operands decide. All else in memory is without influence
on it. On two plain memories that differ in one cell, an instruction that does not read this
cell takes the processor to the same state, and it leaves memories that differ in this cell at
most.
-/

namespace GameBoy.Cpu

open Memory

/-- Reading an operand reads memory only where it is the cell at `hl`. -/
def Operand.reads (registers : Registers) : Operand → List Word
  | .atHl => [registers.pair .hl]
  | _ => []

/-- Where the word on top of the stack is. -/
def Registers.stackTop (registers : Registers) : List Word := [registers.sp, registers.sp + 1]

/-- The addresses that an instruction reads, in order, when it is executed. -/
def Instruction.reads (registers : Registers) : Instruction → List Word
  | .load _ source | .accumulate _ source | .testBit _ source => source.reads registers
  | .increment target | .decrement target | .shift _ target | .resetBit _ target
  | .setBit _ target => target.reads registers
  | .fetchAt pointer => [(registers.follow pointer).1]
  | .fetchPage offset => [highPage + offset.toUInt16]
  | .fetchPageC => [highPage + registers.c.toUInt16]
  | .fetch address => [address]
  | .pop _ | .returnEnabling => registers.stackTop
  | .ret condition => if condition.holds registers then registers.stackTop else []
  | _ => []

theorem Instruction.reads_ret (registers : Registers) (condition : Condition) :
    (Instruction.ret condition).reads registers =
      if condition.holds registers then registers.stackTop else [] := rfl

/-- What an instruction reads as data does not depend on where it stands. -/
theorem Instruction.reads_pc (registers : Registers) (address : Word)
    (instruction : Instruction) :
    instruction.reads { registers with pc := address } = instruction.reads registers := by
  cases instruction with
  | fetchAt pointer => cases pointer <;> rfl
  | ret condition => cases condition <;> rfl
  | _ => rfl

/-! ## A bus that notes what is read -/

/-- A bus, and the addresses that were read on it. The questions about interrupts are answered
but not noted. -/
structure Noted (β : Type) where
  bus : β
  reads : List Word := []

namespace Noted

variable {β : Type}

instance [AddressSpace β] : AddressSpace (Noted β) where
  read noted address :=
    let (value, bus) := AddressSpace.read noted.bus address
    (value, { bus, reads := noted.reads ++ [address] })
  write noted address value :=
    let (bus, events) := AddressSpace.write noted.bus address value
    ({ noted with bus }, events)
  elapse noted cycles :=
    let (bus, events) := AddressSpace.elapse noted.bus cycles
    ({ noted with bus }, events)

variable [Bus β]

instance : Bus (Noted β) where
  pending noted :=
    let (interrupt, bus) := Bus.pending noted.bus
    (interrupt, { noted with bus })
  acknowledge noted interrupt :=
    let (bus, events) := Bus.acknowledge noted.bus interrupt
    ({ noted with bus }, events)

/-- The processor does not notice that its reads are noted. -/
theorem simulation : Simulation fun (noted : Noted β) (bus : β) => noted.bus = bus where
  read address related := by
    subst related
    exact ⟨rfl, rfl⟩
  write address value related := by
    subst related
    exact ⟨rfl, rfl⟩
  elapse cycles _ related := by
    subst related
    exact ⟨rfl, rfl⟩
  pending related := by
    subst related
    exact ⟨rfl, rfl⟩
  acknowledge interrupt related := by
    subst related
    exact ⟨rfl, rfl⟩

end Noted

namespace Core

section Notes

variable {β : Type} [Bus β]

/-- The addresses that are read when an instruction is executed. -/
def dataReads (core : Core β) (instruction : Instruction) : List Word :=
  (Core.execute { cpu := core.cpu, bus := ({ bus := core.bus } : Noted β) } instruction).bus.reads

variable (core : Core (Noted β))

theorem reads_readOperand (source : Operand) :
    (core.readOperand source).2.bus.reads = core.bus.reads ++ source.reads core.registers := by
  cases source with
  | atHl => rfl
  | b | c | d | e | h | l | a => exact (List.append_nil _).symm

theorem reads_writeOperand (target : Operand) (value : Byte) :
    (core.writeOperand target value).bus.reads = core.bus.reads := by
  cases target <;> rfl

theorem reads_pop : core.pop.2.bus.reads = core.bus.reads ++ core.registers.stackTop :=
  List.append_assoc _ [_] [_]

theorem reads_halt : core.halt.bus.reads = core.bus.reads := by
  simp only [halt]
  split
  · rfl
  · split <;> rfl

/-- An instruction reads what its operands name: one case a constructor. -/
theorem reads_execute (instruction : Instruction) :
    (core.execute instruction).bus.reads =
      core.bus.reads ++ instruction.reads core.registers := by
  cases instruction with
  | halt => exact core.reads_halt.trans (List.append_nil _).symm
  | load target source =>
      exact (reads_writeOperand _ target _).trans (core.reads_readOperand source)
  | increment target | decrement target | shift shift target | resetBit index target
  | setBit index target =>
      exact (reads_writeOperand _ target _).trans (core.reads_readOperand target)
  | accumulate operation source | testBit index source => exact core.reads_readOperand source
  | loadByte target value =>
      exact (core.reads_writeOperand target value).trans (List.append_nil _).symm
  | fetchAt pointer | fetchPage offset | fetchPageC | fetch address => rfl
  | pop pair | returnEnabling => exact core.reads_pop
  | ret condition =>
      rw [Instruction.reads_ret]
      simp only [execute]
      split
      · exact core.reads_pop
      · exact (List.append_nil _).symm
  | jumpRelative condition displacement | jump condition target | call condition target =>
      refine Eq.trans ?_ (List.append_nil _).symm
      simp only [execute]
      split <;> rfl
  | nop | stop | disableInterrupts | enableInterrupts | loadWord target value
  | storeAt pointer | storeSp address | storePage offset | storePageC | store address
  | loadSpHl | loadHlSp displacement | push pair | accumulateByte operation value
  | incrementPair target | decrementPair target | addHl source | addSp displacement
  | shiftA shift | adjustDecimal | complement | setCarry | complementCarry | jumpHl
  | restart target => exact (List.append_nil _).symm

theorem dataReads_eq (core : Core β) (instruction : Instruction) :
    core.dataReads instruction = instruction.reads core.registers :=
  reads_execute _ instruction

end Notes

end Core

end GameBoy.Cpu

namespace GameBoy.Memory.Flat

/-- Two memories that hold the same but for one cell, and to which the same was done. -/
structure SameBut (place : Word) (left right : Flat) : Prop where
  peek : ∀ address, address ≠ place → left.peek address = right.peek address
  writes : left.writes = right.writes
  cycles : left.cycles = right.cycles

variable {place : Word} {left right : Flat}

theorem SameBut.write (same : SameBut place left right) (address : Word) (value : Byte) :
    SameBut place (left.write address value) (right.write address value) where
  peek other elsewhere := by
    rw [peek_write, peek_write, same.peek other elsewhere]
  writes := congrArg (·.push (address, value)) same.writes
  cycles := same.cycles

theorem SameBut.elapse (same : SameBut place left right) (cycles : Nat) :
    SameBut place (left.elapse cycles) (right.elapse cycles) where
  peek := same.peek
  writes := same.writes
  cycles := congrArg (· + cycles) same.cycles

theorem sameBut_poke (memory : Flat) (place : Word) (value : Byte) :
    SameBut place memory (memory.poke place value) where
  peek other elsewhere := by
    rw [peek_poke, if_neg elsewhere.symm]
  writes := rfl
  cycles := rfl

end GameBoy.Memory.Flat

namespace GameBoy.Cpu

open Memory Flat AddressSpace

/-! ## An address without influence -/

/-- The bus with an address that reads as zero. -/
@[reducible] def Bus.blind (β : Type) [Bus β] (place : Word) : Bus β where
  read bus address := if address = place then (0, bus) else AddressSpace.read bus address
  write := AddressSpace.write
  elapse := AddressSpace.elapse
  pending := Bus.pending
  acknowledge := Bus.acknowledge

/-- Memories that differ in a cell which cannot be read are alike for the processor. -/
theorem simulation_blind {place : Word} (enable : place ≠ enableAddress)
    (request : place ≠ requestAddress) :
    @Simulation Flat Flat (Bus.blind Flat place) (Bus.blind Flat place) (SameBut place) := by
  refine @Simulation.mk Flat Flat (Bus.blind Flat place) (Bus.blind Flat place) _
    ?read ?write ?elapse ?pending ?acknowledge
  case read =>
    intro left right address same
    change (if address = place then (0, left) else (left.peek address, left)).1 =
        (if address = place then (0, right) else (right.peek address, right)).1 ∧
      SameBut place (if address = place then (0, left) else (left.peek address, left)).2
        (if address = place then (0, right) else (right.peek address, right)).2
    split
    next here => exact ⟨rfl, same⟩
    next elsewhere => exact ⟨same.peek address elsewhere, same⟩
  case write => exact fun address value same => ⟨same.write address value, rfl⟩
  case elapse => exact fun cycles _ same => ⟨same.elapse cycles, rfl⟩
  case pending =>
    intro left right same
    have enabled := same.peek enableAddress enable.symm
    have requested := same.peek requestAddress request.symm
    refine ⟨?_, same⟩
    change Interrupt.highest (left.peek enableAddress &&& left.peek requestAddress) =
      Interrupt.highest (right.peek enableAddress &&& right.peek requestAddress)
    rw [enabled, requested]
  case acknowledge =>
    intro left right interrupt same
    have requested := same.peek requestAddress request.symm
    change SameBut place
      (left.write requestAddress (left.peek requestAddress &&& ~~~interrupt.mask))
      (right.write requestAddress (right.peek requestAddress &&& ~~~interrupt.mask)) ∧ _
    rw [requested]
    exact ⟨same.write _ _, rfl⟩

namespace Core

section Blind

variable {β : Type} [Bus β] (core : Core β) {place : Word}

theorem read_blind {address : Word} (unread : place ∉ [address]) :
    @Core.read β (Bus.blind β place) core address = core.read address := by
  have other : address ≠ place := (List.ne_of_not_mem_cons unread).symm
  change ((if address = place then (0, core.bus) else AddressSpace.read core.bus address).1,
    { core with
      bus := (if address = place then (0, core.bus)
        else AddressSpace.read core.bus address).2 }) = _
  rw [if_neg other]
  rfl

theorem readOperand_blind {source : Operand} (unread : place ∉ source.reads core.registers) :
    @Core.readOperand β (Bus.blind β place) core source = core.readOperand source := by
  cases source with
  | atHl => exact core.read_blind unread
  | b | c | d | e | h | l | a => rfl

theorem writeOperand_blind (target : Operand) (value : Byte) :
    @Core.writeOperand β (Bus.blind β place) core target value =
      core.writeOperand target value := by
  cases target <;> rfl

theorem pop_blind (unread : place ∉ core.registers.stackTop) :
    @Core.pop β (Bus.blind β place) core = core.pop := by
  obtain ⟨top, next⟩ := List.ne_and_not_mem_of_not_mem_cons unread
  have high : place ∉ [(core.read core.registers.sp).2.registers.sp + 1] := next
  simp only [Core.pop]
  rw [core.read_blind (List.not_mem_cons_of_ne_of_not_mem top List.not_mem_nil),
    read_blind _ high]

/-- What an instruction does not read has no influence on it: one case a constructor. -/
theorem execute_blind {instruction : Instruction}
    (unread : place ∉ instruction.reads core.registers) :
    @Core.execute β (Bus.blind β place) core instruction = core.execute instruction := by
  cases instruction with
  | load target source =>
      simp only [execute, readOperand_blind core unread, writeOperand_blind]
  | increment target | decrement target | shift shift target | resetBit index target
  | setBit index target =>
      simp only [execute, readOperand_blind core unread, writeOperand_blind]
  | accumulate operation source | testBit index source =>
      simp only [execute, readOperand_blind core unread]
  | loadByte target value => exact core.writeOperand_blind target value
  | fetchAt pointer =>
      simp only [execute, loadA, read_blind (core.modifyRegisters _) unread]
  | fetchPage offset | fetchPageC | fetch address =>
      simp only [execute, loadA, read_blind core unread]
  | pop pair => simp only [execute, core.pop_blind unread]
  | returnEnabling => simp only [execute, popPc, core.pop_blind unread]
  | ret condition =>
      rw [Instruction.reads_ret] at unread
      simp only [execute]
      split
      next taken =>
        rw [if_pos taken] at unread
        simp only [popPc, core.pop_blind unread]
      next => rfl
  | nop | stop | halt | disableInterrupts | enableInterrupts | loadWord target value
  | storeAt pointer | storeSp address | storePage offset | storePageC | store address
  | loadSpHl | loadHlSp displacement | push pair | accumulateByte operation value
  | incrementPair target | decrementPair target | addHl source | addSp displacement
  | shiftA shift | adjustDecimal | complement | setCarry | complementCarry
  | jumpRelative condition displacement | jump condition target | jumpHl
  | call condition target | restart target => rfl

end Blind

/-- Memory is seen by an instruction in what it reads alone. -/
theorem Alike.execute {place : Word} {left right : Core Flat}
    (alike : Alike (SameBut place) left right) {instruction : Instruction}
    (unread : place ∉ instruction.reads left.registers) (enable : place ≠ enableAddress)
    (request : place ≠ requestAddress) :
    Alike (SameBut place) (left.execute instruction) (right.execute instruction) := by
  have same := @Simulation.execute_alike Flat Flat (Bus.blind Flat place) (Bus.blind Flat place)
    _ left right (simulation_blind enable request) alike instruction
  rwa [left.execute_blind unread, right.execute_blind (alike.registers ▸ unread)] at same

end Core

end GameBoy.Cpu
