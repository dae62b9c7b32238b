import GameBoy.Proofs.Cpu.Simulation

/-!
# What a step does to its bus

A bus that notes the writes and the waits it sees, in order, behaves like the bus
beneath it. What a step leaves in the notes has one of few shapes: at most two
writes, to addresses next to each other, and then the time that the step took. A
step that writes takes two machine cycles or more, except for the stop instruction,
which writes the divider alone.
-/

namespace GameBoy.Cpu

/-- What changes a bus from outside: a write, or the passage of time. -/
inductive Access where
  | write (address : Word) (value : Byte)
  | elapse (cycles : Nat)
  deriving DecidableEq, Repr

/-- A bus, and the accesses that it has seen. The questions about interrupts are
answered but not noted. -/
structure Recorded (β : Type) where
  bus : β
  accesses : List Access := []

namespace Recorded

variable {β : Type}

instance [AddressSpace β] : AddressSpace (Recorded β) where
  read recorded address :=
    let (value, bus) := AddressSpace.read recorded.bus address
    (value, { recorded with bus })
  write recorded address value :=
    let (bus, events) := AddressSpace.write recorded.bus address value
    ({ bus, accesses := recorded.accesses ++ [.write address value] }, events)
  elapse recorded cycles :=
    let (bus, events) := AddressSpace.elapse recorded.bus cycles
    ({ bus, accesses := recorded.accesses ++ [.elapse cycles] }, events)

variable [Bus β]

instance : Bus (Recorded β) where
  pending recorded :=
    let (interrupt, bus) := Bus.pending recorded.bus
    (interrupt, { recorded with bus })
  acknowledge recorded interrupt :=
    let (bus, events) := Bus.acknowledge recorded.bus interrupt
    ({ recorded with bus }, events)

/-- The processor does not notice that its accesses are noted. -/
theorem simulation : Simulation fun (recorded : Recorded β) (bus : β) => recorded.bus = bus where
  read address related := by
    subst related
    exact ⟨rfl, rfl⟩
  write address value related := by
    subst related
    exact ⟨rfl, rfl⟩
  elapse cycles _ related := by
    subst related
    exact ⟨rfl, rfl⟩
  pending related := by
    subst related
    exact ⟨rfl, rfl⟩
  acknowledge interrupt related := by
    subst related
    exact ⟨rfl, rfl⟩

end Recorded

/-- Writes that one instruction makes. A word goes to two addresses next to each
other: a store begins with the lower one, a push with the upper one. -/
inductive Stores : List Access → Prop where
  | byte (address : Word) (value : Byte) : Stores [.write address value]
  | upward (address : Word) (low high : Byte) :
      Stores [.write address low, .write (address + 1) high]
  | downward (address : Word) (low high : Byte) :
      Stores [.write (address + 1) high, .write address low]

/-- What a step can do to its bus. -/
inductive Footprint : List Access → Prop where
  /-- The processor is stopped, or it faults. -/
  | still : Footprint []
  | quiet {cycles : Nat} (whole : 4 ∣ cycles) : Footprint [.elapse cycles]
  | storing {writes : List Access} (stores : Stores writes) {cycles : Nat}
      (whole : 4 ∣ cycles) (long : 8 ≤ cycles) : Footprint (writes ++ [.elapse cycles])
  | stopping : Footprint [.write dividerAddress 0, .elapse 4]

namespace Core

variable {β : Type}

/-- The accesses that the bus of a core has seen. -/
def accesses (core : Core (Recorded β)) : List Access := core.bus.accesses

variable (core : Core (Recorded β))

/-! ## Operations -/

@[simp] theorem accesses_modifyCpu (change : State → State) :
    (core.modifyCpu change).accesses = core.accesses := rfl

@[simp] theorem accesses_modifyRegisters (change : Registers → Registers) :
    (core.modifyRegisters change).accesses = core.accesses := rfl

@[simp] theorem accesses_setPc (address : Word) :
    (core.setPc address).accesses = core.accesses := rfl

@[simp] theorem accesses_report (event : Event) :
    (core.report event).accesses = core.accesses := rfl

variable [Bus β]

@[simp] theorem accesses_read (address : Word) :
    (core.read address).2.accesses = core.accesses := rfl

@[simp] theorem accesses_write (address : Word) (value : Byte) :
    (core.write address value).accesses = core.accesses ++ [.write address value] := rfl

@[simp] theorem accesses_elapse (cycles : Nat) :
    (core.elapse cycles).accesses = core.accesses ++ [.elapse cycles] := rfl

@[simp] theorem accesses_pending : core.pending.2.accesses = core.accesses := rfl

@[simp] theorem accesses_acknowledge (interrupt : Interrupt) :
    (core.acknowledge interrupt).accesses = core.accesses := rfl

@[simp] theorem accesses_fetchByte : core.fetchByte.2.accesses = core.accesses := by
  simp only [fetchByte]
  split <;> rfl

@[simp] theorem accesses_fetchWord : core.fetchWord.2.accesses = core.accesses := by
  simp only [fetchWord, accesses_fetchByte]

@[simp] theorem accesses_pop : core.pop.2.accesses = core.accesses := rfl

@[simp] theorem accesses_popPc : core.popPc.accesses = core.accesses := rfl

@[simp] theorem accesses_loadA (address : Word) :
    (core.loadA address).accesses = core.accesses := rfl

@[simp] theorem accesses_readOperand (operand : Operand) :
    (core.readOperand operand).2.accesses = core.accesses := by
  cases operand <;> rfl

@[simp] theorem accesses_halt : core.halt.accesses = core.accesses := by
  simp only [halt]
  split
  · rfl
  · split <;> rfl

@[simp] theorem accesses_awaitButton : core.awaitButton.accesses = core.accesses := by
  simp only [awaitButton]
  split <;> rfl

@[simp] theorem accesses_fetchOperands (form : Form) :
    (core.fetchOperands form).2.accesses = core.accesses := by
  cases form with
  | inherent instruction | undefined => rfl
  | byte instruction => exact core.accesses_fetchByte
  | word instruction => exact core.accesses_fetchWord

@[simp] theorem accesses_call (target : Word) :
    (core.call target).accesses = (core.push core.registers.pc).accesses := rfl

/-- The upper byte of a word is pushed first. -/
theorem accesses_push (value : Word) :
    (core.push value).accesses = core.accesses ++
      [.write (core.registers.sp - 1 - 1 + 1) value.high,
        .write (core.registers.sp - 1 - 1) value.low] := by
  rw [UInt16.sub_add_cancel]
  exact List.append_assoc _ [_] [_]

end Core

/-! ## Instructions -/

namespace Core

variable {β : Type}

/-- What came between two cores, with the time that is still to pass, is what a step
can do. -/
def Leaves (before after : Core (Recorded β)) (cycles : Nat) : Prop :=
  ∃ writes, after.accesses = before.accesses ++ writes ∧
    Footprint (writes ++ [.elapse cycles])

variable {core after : Core (Recorded β)} {cycles : Nat}

theorem Leaves.of_quiet (whole : 4 ∣ cycles) (same : after.accesses = core.accesses) :
    core.Leaves after cycles :=
  ⟨[], by rw [same, List.append_nil], .quiet whole⟩

theorem Leaves.of_stores {writes : List Access} (stores : Stores writes) (whole : 4 ∣ cycles)
    (long : 8 ≤ cycles) (wrote : after.accesses = core.accesses ++ writes) :
    core.Leaves after cycles :=
  ⟨writes, wrote, .storing stores whole long⟩

variable [Bus β]

/-- Replacing an operand writes memory only where it is the cell at `hl`. -/
theorem Leaves.of_writeOperand {middle : Core (Recorded β)}
    (same : middle.accesses = core.accesses) (operand : Operand) (value : Byte)
    (whole : 4 ∣ cycles) (long : operand = .atHl → 8 ≤ cycles) :
    core.Leaves (middle.writeOperand operand value) cycles := by
  cases operand with
  | atHl =>
      refine .of_stores (.byte (middle.registers.pair .hl) value) whole (long rfl) ?_
      simp only [writeOperand, accesses_write, same]
  | b | c | d | e | h | l | a => exact .of_quiet whole same

theorem Leaves.of_push {middle : Core (Recorded β)} (same : middle.accesses = core.accesses)
    {value : Word} (pushed : after.accesses = (middle.push value).accesses)
    (whole : 4 ∣ cycles) (long : 8 ≤ cycles) : core.Leaves after cycles := by
  rw [accesses_push, same] at pushed
  exact .of_stores (.downward _ value.low value.high) whole long pushed

/-- What an instruction leaves, with its cost: one case a constructor. -/
theorem leaves_execute (core : Core (Recorded β)) (instruction : Instruction) :
    core.Leaves (core.execute instruction)
      (instruction.cost (instruction.condition.holds core.registers)) := by
  have whole := instruction.four_dvd_cost (instruction.condition.holds core.registers)
  cases instruction with
  | stop => exact ⟨[.write dividerAddress 0], rfl, .stopping⟩
  | load target source =>
      refine .of_writeOperand ?_ target _ whole ?_
      · exact core.accesses_readOperand source
      · rintro rfl
        simp [Instruction.cost]
  | loadByte target value =>
      refine .of_writeOperand rfl target value whole ?_
      rintro rfl
      simp [Instruction.cost, Operand.cost]
  | increment target | decrement target | shift shift target | resetBit index target
  | setBit index target =>
      refine .of_writeOperand ?_ target _ whole ?_
      · exact core.accesses_readOperand target
      · rintro rfl
        simp [Instruction.cost, Operand.cost]
  | storeAt pointer | storePage offset | storePageC | store address =>
      exact .of_stores (.byte _ _) whole (by simp [Instruction.cost]) rfl
  | storeSp address =>
      refine .of_stores (.upward address core.registers.sp.low core.registers.sp.high) whole
        (by simp [Instruction.cost]) ?_
      exact List.append_assoc _ [_] [_]
  | push pair => exact .of_push rfl rfl whole (by simp [Instruction.cost])
  | restart target =>
      exact .of_push rfl (core.accesses_call target) whole (by simp [Instruction.cost])
  | call condition target =>
      simp only [execute]
      split
      next taken =>
        refine .of_push rfl (core.accesses_call target) whole ?_
        simp [Instruction.cost, Instruction.condition, taken]
      next => exact .of_quiet whole rfl
  | jumpRelative condition displacement | jump condition target | ret condition =>
      refine .of_quiet whole ?_
      simp only [execute]
      split <;> simp
  | nop | halt | disableInterrupts | enableInterrupts | loadWord target value
  | fetchAt pointer | fetchPage offset | fetchPageC | fetch address | loadSpHl
  | loadHlSp displacement | pop pair | accumulate operation source
  | accumulateByte operation value | incrementPair target | decrementPair target
  | addHl source | addSp displacement | shiftA shift | adjustDecimal | complement | setCarry
  | complementCarry | jumpHl | returnEnabling | testBit index source =>
      exact .of_quiet whole (by simp [execute])

/-! ## Steps -/

theorem leaves_dispatch {middle : Core (Recorded β)}
    (same : middle.accesses = core.accesses) (interrupt : Interrupt) :
    core.Leaves (middle.dispatch interrupt) dispatchCycles := by
  simp only [dispatch]
  generalize disabled : middle.modifyCpu State.disableInterrupts = confirming
  have still : ((confirming.acknowledge interrupt).modifyCpu fun cpu =>
      { cpu with repeatFetch := false }).accesses = core.accesses := by
    rw [accesses_modifyCpu, accesses_acknowledge, ← disabled, accesses_modifyCpu, same]
  exact .of_push still ((accesses_report _ _).trans (accesses_setPc _ _)) (by decide)
    (by decide)

/-- Time passes after what an instruction did. -/
theorem Leaves.elapse (leaves : core.Leaves after cycles) :
    ∃ accesses, (after.elapse cycles).accesses = core.accesses ++ accesses ∧
      Footprint accesses := by
  obtain ⟨writes, wrote, footprint⟩ := leaves
  refine ⟨_, ?_, footprint⟩
  rw [accesses_elapse, wrote, List.append_assoc]

/-- Looking for an interrupt leaves nothing unless one is dispatched. -/
theorem leaves_serviceInterrupt {served : Bool}
    (asked : core.serviceInterrupt = (served, after)) :
    if served then core.Leaves after dispatchCycles else after.accesses = core.accesses := by
  have same := core.accesses_pending
  rw [serviceInterrupt] at asked
  generalize core.pending = answer at asked same
  obtain ⟨found, next⟩ := answer
  cases found with
  | none =>
      cases asked
      exact same
  | some interrupt =>
      simp only at asked
      split at asked
      · cases asked
        exact leaves_dispatch same interrupt
      · cases asked
        exact same

theorem footprint_runInstruction (core : Core (Recorded β)) :
    ∃ accesses, core.runInstruction.2.accesses = core.accesses ++ accesses ∧
      Footprint accesses := by
  have fetched := (core.fetchByte.2.accesses_fetchOperands (decode core.fetchByte.1)).trans
    core.accesses_fetchByte
  simp only [runInstruction]
  generalize core.fetchByte.2.fetchOperands _ = operands at fetched ⊢
  obtain ⟨instruction, next⟩ := operands
  simp only at fetched
  cases instruction with
  | none => exact ⟨[], fetched.trans (List.append_nil _).symm, .still⟩
  | some instruction =>
      obtain ⟨accesses, left, footprint⟩ := (next.leaves_execute instruction).elapse
      exact ⟨accesses, left.trans (congrArg (· ++ accesses) fetched), footprint⟩

/-- What a step does to its bus. -/
theorem footprint_step (core : Core (Recorded β)) :
    ∃ accesses, core.step.2.accesses = core.accesses ++ accesses ∧ Footprint accesses := by
  simp only [step]
  split
  next => exact ⟨[], (List.append_nil _).symm, .still⟩
  next =>
    split
    next =>
      refine ⟨[], ?_, .still⟩
      rw [List.append_nil]
      exact core.accesses_awaitButton
    next =>
      split
      next next asked => exact (leaves_serviceInterrupt asked).elapse
      next next asked =>
        have same : next.accesses = core.accesses := leaves_serviceInterrupt asked
        split
        · exact (Leaves.of_quiet (by decide) same).elapse
        · exact same ▸ next.footprint_runInstruction

end Core

end GameBoy.Cpu
