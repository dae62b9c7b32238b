import GameBoy.Cpu.Step

/-!
# Processors on related buses

The processor sees a bus only through reading, writing, the passage of time and
the two interrupt questions. When a relation between the states of two buses
survives these five operations, and their answers and events agree, a processor
behaves the same on both: every step gives the same result, the same processor
state and the same events, and leaves the buses related. A property of a single
bus is the case where the relation includes equality.
-/

namespace GameBoy.Cpu

/-- A relation between buses that the processor cannot break and does not notice.
Time is told in whole machine cycles. -/
structure Simulation {β γ : Type} [Bus β] [Bus γ] (Related : β → γ → Prop) : Prop where
  read : ∀ {left : β} {right : γ} (address : Word), Related left right →
    (AddressSpace.read left address).1 = (AddressSpace.read right address).1 ∧
      Related (AddressSpace.read left address).2 (AddressSpace.read right address).2
  write : ∀ {left : β} {right : γ} (address : Word) (value : Byte), Related left right →
    Related (AddressSpace.write left address value).1
        (AddressSpace.write right address value).1 ∧
      (AddressSpace.write left address value).2 = (AddressSpace.write right address value).2
  elapse : ∀ {left : β} {right : γ} (cycles : Nat), 4 ∣ cycles → Related left right →
    Related (AddressSpace.elapse left cycles).1 (AddressSpace.elapse right cycles).1 ∧
      (AddressSpace.elapse left cycles).2 = (AddressSpace.elapse right cycles).2
  pending : ∀ {left : β} {right : γ}, Related left right →
    (Bus.pending left).1 = (Bus.pending right).1 ∧
      Related (Bus.pending left).2 (Bus.pending right).2
  acknowledge : ∀ {left : β} {right : γ} (interrupt : Interrupt), Related left right →
    Related (Bus.acknowledge left interrupt).1 (Bus.acknowledge right interrupt).1 ∧
      (Bus.acknowledge left interrupt).2 = (Bus.acknowledge right interrupt).2

namespace Core

variable {β γ : Type} {Related : β → γ → Prop}

/-- Two cores that differ at most in related buses. -/
structure Alike (Related : β → γ → Prop) (left : Core β) (right : Core γ) : Prop where
  cpu : left.cpu = right.cpu
  bus : Related left.bus right.bus
  journal : left.journal = right.journal

/-- Two results with equal values, beside cores that are alike. -/
structure AlikeWith {α : Type} (Related : β → γ → Prop) (left : α × Core β)
    (right : α × Core γ) : Prop where
  value : left.1 = right.1
  core : Alike Related left.2 right.2

namespace Alike

variable {left : Core β} {right : Core γ}

theorem registers (alike : Alike Related left right) : left.registers = right.registers :=
  congrArg State.registers alike.cpu

theorem modifyCpu (alike : Alike Related left right) (change : State → State) :
    Alike Related (left.modifyCpu change) (right.modifyCpu change) :=
  ⟨congrArg change alike.cpu, alike.bus, alike.journal⟩

theorem modifyRegisters (alike : Alike Related left right)
    (change : Registers → Registers) :
    Alike Related (left.modifyRegisters change) (right.modifyRegisters change) := by
  refine ⟨?_, alike.bus, alike.journal⟩
  simp only [Core.modifyRegisters, alike.cpu]

theorem setPc (alike : Alike Related left right) (address : Word) :
    Alike Related (left.setPc address) (right.setPc address) :=
  alike.modifyRegisters _

theorem report (alike : Alike Related left right) (event : Event) :
    Alike Related (left.report event) (right.report event) := by
  refine ⟨alike.cpu, alike.bus, ?_⟩
  simp only [Core.report, alike.journal]

theorem raiseFault (alike : Alike Related left right) (fault : Fault) :
    Alike Related (left.raiseFault fault) (right.raiseFault fault) := by
  simp only [Core.raiseFault, alike.registers]
  exact (alike.report _).modifyCpu _

/-- Equal values may stand beside cores that are alike. -/
theorem withValue {α : Type} (alike : Alike Related left right) {first second : α}
    (equal : first = second) : AlikeWith Related (first, left) (second, right) :=
  ⟨equal, alike⟩

end Alike

end Core

namespace Simulation

open GameBoy.Cpu.Core

variable {β γ : Type} [Bus β] [Bus γ] {Related : β → γ → Prop}
variable {left : Core β} {right : Core γ}

/-! ## Reaching the bus -/

theorem read_alike (simulation : Simulation Related) (alike : Alike Related left right)
    (address : Word) : AlikeWith Related (left.read address) (right.read address) := by
  obtain ⟨value, bus⟩ := simulation.read address alike.bus
  exact ⟨value, alike.cpu, bus, alike.journal⟩

theorem write_alike (simulation : Simulation Related) (alike : Alike Related left right)
    (address : Word) (value : Byte) :
    Alike Related (left.write address value) (right.write address value) := by
  obtain ⟨bus, events⟩ := simulation.write address value alike.bus
  refine ⟨alike.cpu, bus, ?_⟩
  simp only [Core.write, events, alike.journal]

theorem elapse_alike (simulation : Simulation Related) (alike : Alike Related left right)
    {cycles : Nat} (whole : 4 ∣ cycles) :
    Alike Related (left.elapse cycles) (right.elapse cycles) := by
  obtain ⟨bus, events⟩ := simulation.elapse cycles whole alike.bus
  refine ⟨alike.cpu, bus, ?_⟩
  simp only [Core.elapse, events, alike.journal]

theorem pending_alike (simulation : Simulation Related) (alike : Alike Related left right) :
    AlikeWith Related left.pending right.pending := by
  obtain ⟨value, bus⟩ := simulation.pending alike.bus
  exact ⟨value, alike.cpu, bus, alike.journal⟩

theorem acknowledge_alike (simulation : Simulation Related)
    (alike : Alike Related left right) (interrupt : Interrupt) :
    Alike Related (left.acknowledge interrupt) (right.acknowledge interrupt) := by
  obtain ⟨bus, events⟩ := simulation.acknowledge interrupt alike.bus
  refine ⟨alike.cpu, bus, ?_⟩
  simp only [Core.acknowledge, events, alike.journal]

/-! ## Operands and the stack -/

theorem fetchByte_alike (simulation : Simulation Related)
    (alike : Alike Related left right) :
    AlikeWith Related left.fetchByte right.fetchByte := by
  have fetched := simulation.read_alike alike left.registers.pc
  simp only [Core.fetchByte]
  rw [← alike.registers, ← fetched.core.cpu, ← fetched.core.registers]
  split
  · exact (fetched.core.modifyCpu _).withValue fetched.value
  · exact (fetched.core.setPc _).withValue fetched.value

theorem fetchWord_alike (simulation : Simulation Related)
    (alike : Alike Related left right) :
    AlikeWith Related left.fetchWord right.fetchWord := by
  have low := simulation.fetchByte_alike alike
  have high := simulation.fetchByte_alike low.core
  refine ⟨?_, high.core⟩
  simp only [Core.fetchWord]
  rw [low.value, high.value]

theorem pushByte_alike (simulation : Simulation Related)
    (alike : Alike Related left right) (value : Byte) :
    Alike Related (left.pushByte value) (right.pushByte value) := by
  have moved := alike.modifyRegisters
    fun registers => { registers with sp := registers.sp - 1 }
  simp only [Core.pushByte]
  rw [moved.registers]
  exact simulation.write_alike moved _ value

theorem push_alike (simulation : Simulation Related) (alike : Alike Related left right)
    (value : Word) : Alike Related (left.push value) (right.push value) :=
  simulation.pushByte_alike (simulation.pushByte_alike alike value.high) value.low

theorem pop_alike (simulation : Simulation Related) (alike : Alike Related left right) :
    AlikeWith Related left.pop right.pop := by
  have low := simulation.read_alike alike left.registers.sp
  have high := simulation.read_alike low.core
    ((left.read left.registers.sp).2.registers.sp + 1)
  simp only [Core.pop]
  rw [← alike.registers, ← low.core.registers, low.value, high.value]
  exact (high.core.modifyRegisters _).withValue rfl

theorem readOperand_alike (simulation : Simulation Related)
    (alike : Alike Related left right) (operand : Operand) :
    AlikeWith Related (left.readOperand operand) (right.readOperand operand) := by
  cases operand with
  | atHl =>
      simp only [Core.readOperand, alike.registers]
      exact simulation.read_alike alike _
  | b | c | d | e | h | l | a =>
      simp only [Core.readOperand, alike.registers]
      exact ⟨rfl, alike⟩

theorem writeOperand_alike (simulation : Simulation Related)
    (alike : Alike Related left right) (operand : Operand) (value : Byte) :
    Alike Related (left.writeOperand operand value) (right.writeOperand operand value) := by
  cases operand with
  | atHl =>
      simp only [Core.writeOperand, alike.registers]
      exact simulation.write_alike alike _ value
  | b | c | d | e | h | l | a =>
      simp only [Core.writeOperand]
      exact alike.modifyRegisters _

theorem loadA_alike (simulation : Simulation Related) (alike : Alike Related left right)
    (address : Word) : Alike Related (left.loadA address) (right.loadA address) := by
  have loaded := simulation.read_alike alike address
  simp only [Core.loadA]
  rw [loaded.value]
  exact loaded.core.modifyRegisters _

theorem popPc_alike (simulation : Simulation Related) (alike : Alike Related left right) :
    Alike Related left.popPc right.popPc := by
  have popped := simulation.pop_alike alike
  simp only [Core.popPc]
  rw [popped.value]
  exact popped.core.setPc _

theorem call_alike (simulation : Simulation Related) (alike : Alike Related left right)
    (target : Word) : Alike Related (left.call target) (right.call target) := by
  simp only [Core.call, alike.registers]
  exact (simulation.push_alike alike _).setPc target

/-! ## Instructions -/

theorem halt_alike (simulation : Simulation Related) (alike : Alike Related left right) :
    Alike Related left.halt right.halt := by
  have asked := simulation.pending_alike alike
  simp only [Core.halt]
  rw [← alike.cpu, ← asked.value]
  split
  · exact alike.modifyCpu _
  · split
    · exact asked.core.modifyCpu _
    · exact asked.core.modifyCpu _

theorem stop_alike (simulation : Simulation Related) (alike : Alike Related left right) :
    Alike Related left.stop right.stop := by
  have waiting := (simulation.write_alike alike dividerAddress 0).modifyCpu
    fun cpu => { cpu with stopped := true }
  simp only [Core.stop]
  rw [waiting.registers]
  exact waiting.report _

/-- An instruction has the same effect on both sides: one case a constructor. -/
theorem execute_alike (simulation : Simulation Related) (alike : Alike Related left right)
    (instruction : Instruction) :
    Alike Related (left.execute instruction) (right.execute instruction) := by
  cases instruction with
  | nop => exact alike
  | stop => exact simulation.stop_alike alike
  | halt => exact simulation.halt_alike alike
  | disableInterrupts | enableInterrupts =>
      simp only [Core.execute]
      exact alike.modifyCpu _
  | load target source =>
      have operand := simulation.readOperand_alike alike source
      simp only [Core.execute]
      rw [operand.value]
      exact simulation.writeOperand_alike operand.core target _
  | loadByte target value => exact simulation.writeOperand_alike alike target value
  | loadWord target value =>
      simp only [Core.execute]
      exact alike.modifyRegisters _
  | storeAt pointer =>
      simp only [Core.execute, alike.registers]
      exact simulation.write_alike (alike.modifyRegisters _) _ _
  | fetchAt pointer =>
      simp only [Core.execute, alike.registers]
      exact simulation.loadA_alike (alike.modifyRegisters _) _
  | storeSp address =>
      simp only [Core.execute, alike.registers]
      exact simulation.write_alike (simulation.write_alike alike _ _) _ _
  | storePage offset | store address =>
      simp only [Core.execute, alike.registers]
      exact simulation.write_alike alike _ _
  | storePageC =>
      simp only [Core.execute, alike.registers]
      exact simulation.write_alike alike _ _
  | fetchPage offset | fetch address => exact simulation.loadA_alike alike _
  | fetchPageC =>
      simp only [Core.execute, alike.registers]
      exact simulation.loadA_alike alike _
  | push pair =>
      simp only [Core.execute, alike.registers]
      exact simulation.push_alike alike _
  | pop pair =>
      have popped := simulation.pop_alike alike
      simp only [Core.execute]
      rw [popped.value]
      exact popped.core.modifyRegisters _
  | accumulate operation source =>
      have operand := simulation.readOperand_alike alike source
      simp only [Core.execute]
      rw [operand.value]
      exact operand.core.modifyRegisters _
  | increment target | decrement target =>
      have operand := simulation.readOperand_alike alike target
      simp only [Core.execute]
      rw [operand.value]
      exact simulation.writeOperand_alike (operand.core.modifyRegisters _) target _
  | loadSpHl | loadHlSp displacement | accumulateByte operation value
  | incrementPair target | decrementPair target | addHl source | addSp displacement
  | shiftA shift | adjustDecimal | complement | setCarry | complementCarry =>
      simp only [Core.execute]
      exact alike.modifyRegisters _
  | jumpRelative condition displacement =>
      simp only [Core.execute, alike.registers]
      split
      · exact alike.setPc _
      · exact alike
  | jump condition target =>
      simp only [Core.execute, alike.registers]
      split
      · exact alike.setPc _
      · exact alike
  | jumpHl =>
      simp only [Core.execute, alike.registers]
      exact alike.setPc _
  | call condition target =>
      simp only [Core.execute, alike.registers]
      split
      · exact simulation.call_alike alike target
      · exact alike
  | ret condition =>
      simp only [Core.execute, alike.registers]
      split
      · exact simulation.popPc_alike alike
      · exact alike
  | returnEnabling =>
      simp only [Core.execute]
      exact (simulation.popPc_alike alike).modifyCpu _
  | restart target => exact simulation.call_alike alike target
  | shift shift target =>
      have operand := simulation.readOperand_alike alike target
      simp only [Core.execute]
      rw [operand.value, operand.core.registers]
      exact simulation.writeOperand_alike (operand.core.modifyRegisters _) target _
  | testBit index source =>
      have operand := simulation.readOperand_alike alike source
      simp only [Core.execute]
      rw [operand.value]
      exact operand.core.modifyRegisters _
  | resetBit index target | setBit index target =>
      have operand := simulation.readOperand_alike alike target
      simp only [Core.execute]
      rw [operand.value]
      exact simulation.writeOperand_alike operand.core target _

theorem fetchOperands_alike (simulation : Simulation Related)
    (alike : Alike Related left right) (form : Form) :
    AlikeWith Related (left.fetchOperands form) (right.fetchOperands form) := by
  cases form with
  | inherent instruction => exact alike.withValue rfl
  | byte instruction =>
      have fetched := simulation.fetchByte_alike alike
      exact fetched.core.withValue (congrArg (some ∘ instruction) fetched.value)
  | word instruction =>
      have fetched := simulation.fetchWord_alike alike
      exact fetched.core.withValue (congrArg (some ∘ instruction) fetched.value)
  | undefined => exact alike.withValue rfl

theorem runInstruction_alike (simulation : Simulation Related)
    (alike : Alike Related left right) :
    AlikeWith Related left.runInstruction right.runInstruction := by
  have opcode := simulation.fetchByte_alike alike
  have operands := simulation.fetchOperands_alike opcode.core (decode left.fetchByte.1)
  simp only [Core.runInstruction]
  rw [← alike.registers, ← opcode.value]
  generalize left.fetchByte.2.fetchOperands _ = leftOperands at operands ⊢
  generalize right.fetchByte.2.fetchOperands _ = rightOperands at operands ⊢
  obtain ⟨leftFetched, leftCore⟩ := leftOperands
  obtain ⟨rightFetched, rightCore⟩ := rightOperands
  obtain ⟨value, core⟩ := operands
  simp only at value core
  subst value
  cases leftFetched with
  | none => exact (core.raiseFault _).withValue rfl
  | some instruction =>
      simp only [core.registers]
      exact (simulation.elapse_alike
        ((simulation.execute_alike core instruction).modifyCpu _)
        (Instruction.four_dvd_cost _ _)).withValue rfl

/-! ## Steps -/

theorem dispatch_alike (simulation : Simulation Related)
    (alike : Alike Related left right) (interrupt : Interrupt) :
    Alike Related (left.dispatch interrupt) (right.dispatch interrupt) := by
  have confirmed := simulation.acknowledge_alike
    (alike.modifyCpu State.disableInterrupts) interrupt
  simp only [Core.dispatch]
  rw [← confirmed.registers, ← confirmed.cpu]
  exact ((simulation.push_alike (confirmed.modifyCpu _) _).setPc _).report _

theorem serviceInterrupt_alike (simulation : Simulation Related)
    (alike : Alike Related left right) :
    AlikeWith Related left.serviceInterrupt right.serviceInterrupt := by
  have asked := simulation.pending_alike alike
  simp only [Core.serviceInterrupt]
  generalize left.pending = leftPending at asked ⊢
  generalize right.pending = rightPending at asked ⊢
  obtain ⟨leftAnswer, leftCore⟩ := leftPending
  obtain ⟨rightAnswer, rightCore⟩ := rightPending
  obtain ⟨value, core⟩ := asked
  simp only at value core
  subst value
  cases leftAnswer with
  | none => exact core.withValue rfl
  | some interrupt =>
      have awake := core.modifyCpu fun cpu => { cpu with halted := false }
      simp only
      rw [← awake.cpu]
      split
      · exact (simulation.dispatch_alike awake interrupt).withValue rfl
      · exact awake.withValue rfl

theorem awaitButton_alike (simulation : Simulation Related)
    (alike : Alike Related left right) :
    Alike Related left.awaitButton right.awaitButton := by
  have lines := simulation.read_alike alike joypadAddress
  simp only [Core.awaitButton]
  rw [← lines.value, ← lines.core.registers]
  split
  · exact (lines.core.report _).modifyCpu _
  · exact lines.core

/-- A step gives the same result on related buses and leaves them related. -/
theorem step_alike (simulation : Simulation Related) (alike : Alike Related left right) :
    AlikeWith Related left.step right.step := by
  simp only [Core.step]
  rw [← alike.cpu]
  split
  · exact alike.withValue rfl
  · split
    · exact (simulation.awaitButton_alike alike).withValue rfl
    · have served := simulation.serviceInterrupt_alike alike
      generalize left.serviceInterrupt = leftService at served ⊢
      generalize right.serviceInterrupt = rightService at served ⊢
      obtain ⟨leftServed, leftCore⟩ := leftService
      obtain ⟨rightServed, rightCore⟩ := rightService
      obtain ⟨value, core⟩ := served
      simp only at value core
      subst value
      cases leftServed with
      | true => exact (simulation.elapse_alike core (by decide)).withValue rfl
      | false =>
          simp only
          rw [← core.cpu]
          split
          · exact (simulation.elapse_alike core (by decide)).withValue rfl
          · exact simulation.runInstruction_alike core

end Simulation

/-! ## One bus -/

/-- A property of a bus that the processor cannot break. -/
structure Keeps {β : Type} [Bus β] (Holds : β → Prop) : Prop where
  read : ∀ {bus : β} (address : Word), Holds bus → Holds (AddressSpace.read bus address).2
  write : ∀ {bus : β} (address : Word) (value : Byte), Holds bus →
    Holds (AddressSpace.write bus address value).1
  elapse : ∀ {bus : β} (cycles : Nat), 4 ∣ cycles → Holds bus →
    Holds (AddressSpace.elapse bus cycles).1
  pending : ∀ {bus : β}, Holds bus → Holds (Bus.pending bus).2
  acknowledge : ∀ {bus : β} (interrupt : Interrupt), Holds bus →
    Holds (Bus.acknowledge bus interrupt).1

namespace Keeps

variable {β : Type} [Bus β] {Holds : β → Prop}

theorem simulation (keeps : Keeps Holds) :
    Simulation fun left right : β => left = right ∧ Holds right where
  read address related := by
    obtain ⟨rfl, holds⟩ := related
    exact ⟨rfl, rfl, keeps.read address holds⟩
  write address value related := by
    obtain ⟨rfl, holds⟩ := related
    exact ⟨⟨rfl, keeps.write address value holds⟩, rfl⟩
  elapse cycles whole related := by
    obtain ⟨rfl, holds⟩ := related
    exact ⟨⟨rfl, keeps.elapse cycles whole holds⟩, rfl⟩
  pending related := by
    obtain ⟨rfl, holds⟩ := related
    exact ⟨rfl, rfl, keeps.pending holds⟩
  acknowledge interrupt related := by
    obtain ⟨rfl, holds⟩ := related
    exact ⟨⟨rfl, keeps.acknowledge interrupt holds⟩, rfl⟩

/-- What the five operations keep, a step keeps. -/
theorem step (keeps : Keeps Holds) (core : Core β) (holds : Holds core.bus) :
    Holds core.step.2.bus :=
  (keeps.simulation.step_alike ⟨rfl, ⟨rfl, holds⟩, rfl⟩).core.bus.2

end Keeps

end GameBoy.Cpu
