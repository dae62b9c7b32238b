import GameBoy.Cpu.Step

/-!
# What a step does

A step serves an interrupt, waits, executes one instruction, or fails because of an
undefined opcode. This is its activity, and with the activity go the result of the step
and the core after it. Of the processor's state the instructions move registers; what
decides about interrupts, waiting and faults is touched by five of them alone.
-/

namespace GameBoy.Cpu

deriving instance DecidableEq for Instruction

/-- What a step does. -/
inductive Activity where
  /-- An undefined opcode ends the program, or has ended it before. -/
  | faulted
  /-- The processor waits, halted or stopped. -/
  | idle
  | dispatched (interrupt : Interrupt)
  | executed (instruction : Instruction)
  deriving DecidableEq

/-- The state without the registers and the latch of a fetch that is repeated: what decides
about interrupts, waiting and faults. -/
def State.control (state : State) : State :=
  { state with registers := {}, repeatFetch := false }

/-- Asking for interrupts is decided without the registers. -/
theorem State.control_requestInterrupts (state : State) :
    state.requestInterrupts.control = state.control.requestInterrupts := by
  unfold requestInterrupts
  split
  next enabled => exact (if_pos enabled).symm
  next disabled => exact (if_neg disabled).symm

namespace Core

variable {β : Type}

@[simp] theorem control_modifyRegisters (core : Core β) (change : Registers → Registers) :
    (core.modifyRegisters change).cpu.control = core.cpu.control := rfl

variable [Bus β]

/-- What the next step does. -/
def activity (core : Core β) : Activity :=
  match core.cpu.fault with
  | some _ => .faulted
  | none =>
    if core.cpu.stopped then .idle
    else
      match core.serviceInterrupt with
      | (true, _) => core.pending.1.elim .idle .dispatched
      | (false, core) =>
        if core.cpu.halted then .idle
        else
          let (opcode, core) := core.fetchByte
          (core.fetchOperands (decode opcode)).1.elim .faulted .executed

/-- The core after it has looked for an interrupt: one that is pending ends waiting. -/
def lookedAround (core : Core β) : Core β :=
  if core.pending.1.isSome then
    core.pending.2.modifyCpu fun cpu => { cpu with halted := false }
  else core.pending.2

/-- The outcomes of a step, by its activity. -/
inductive StepResult (core : Core β) : Activity → Except Fault Nat × Core β → Prop where
  | dead {fault : Fault} (latched : core.cpu.fault = some fault) :
      StepResult core .faulted (.error fault, core)
  | stopped (alive : core.cpu.fault = none) (stopped : core.cpu.stopped = true) :
      StepResult core .idle (.ok idleCycles, core.awaitButton)
  | dispatched (alive : core.cpu.fault = none) (running : core.cpu.stopped = false)
      {interrupt : Interrupt} (pending : core.pending.1 = some interrupt)
      (enabled : core.cpu.enabled = true) :
      StepResult core (.dispatched interrupt)
        (.ok dispatchCycles, (core.lookedAround.dispatch interrupt).elapse dispatchCycles)
  | halted (alive : core.cpu.fault = none) (running : core.cpu.stopped = false)
      (unserved : core.pending.1 = none ∨ core.cpu.enabled = false)
      (halted : core.lookedAround.cpu.halted = true) :
      StepResult core .idle (.ok idleCycles, core.lookedAround.elapse idleCycles)
  | undefined (alive : core.cpu.fault = none) (running : core.cpu.stopped = false)
      (unserved : core.pending.1 = none ∨ core.cpu.enabled = false)
      (awake : core.lookedAround.cpu.halted = false) {opcode : Byte} {opened fetched : Core β}
      (read : core.lookedAround.fetchByte = (opcode, opened))
      (unnamed : opened.fetchOperands (decode opcode) = (none, fetched)) :
      StepResult core .faulted
        (.error { opcode, address := core.lookedAround.registers.pc },
          fetched.raiseFault { opcode, address := core.lookedAround.registers.pc })
  | executed (alive : core.cpu.fault = none) (running : core.cpu.stopped = false)
      (unserved : core.pending.1 = none ∨ core.cpu.enabled = false)
      (awake : core.lookedAround.cpu.halted = false) {opcode : Byte} {opened fetched : Core β}
      (read : core.lookedAround.fetchByte = (opcode, opened)) {instruction : Instruction}
      (named : opened.fetchOperands (decode opcode) = (some instruction, fetched)) :
      StepResult core (.executed instruction)
        (.ok (instruction.cost (instruction.condition.holds fetched.registers)),
          ((fetched.execute instruction).modifyCpu State.applyEnableDelay).elapse
            (instruction.cost (instruction.condition.holds fetched.registers)))

theorem serviceInterrupt_eq (core : Core β) :
    core.serviceInterrupt =
      match core.pending.1 with
      | none => (false, core.lookedAround)
      | some interrupt =>
        if core.cpu.enabled then (true, core.lookedAround.dispatch interrupt)
        else (false, core.lookedAround) := by
  have same : core.pending.2.cpu = core.cpu := rfl
  unfold serviceInterrupt lookedAround
  generalize core.pending = answer at same ⊢
  obtain ⟨found, next⟩ := answer
  cases found with
  | none => rfl
  | some interrupt =>
      simp only at same
      simp only [modifyCpu, same, Option.isSome_some, if_true]

/-- A step that serves no interrupt waits or runs an instruction. -/
theorem stepResult_of_unserved {core : Core β} (alive : core.cpu.fault = none)
    (running : core.cpu.stopped = false)
    (unserved : core.pending.1 = none ∨ core.cpu.enabled = false) :
    StepResult core
      (if core.lookedAround.cpu.halted then .idle
      else
        (core.lookedAround.fetchByte.2.fetchOperands
          (decode core.lookedAround.fetchByte.1)).1.elim .faulted .executed)
      (if core.lookedAround.cpu.halted then
        (.ok idleCycles, core.lookedAround.elapse idleCycles)
      else core.lookedAround.runInstruction) := by
  cases halted : core.lookedAround.cpu.halted with
  | true => exact .halted alive running unserved halted
  | false =>
      simp only [Bool.false_eq_true, if_false, runInstruction]
      cases read : core.lookedAround.fetchByte with
      | mk opcode opened =>
          simp only
          cases operands : opened.fetchOperands (decode opcode) with
          | mk found fetched =>
              cases found with
              | none => exact .undefined alive running unserved halted read operands
              | some instruction => exact .executed alive running unserved halted read operands

/-- Every step has the outcome of its activity. -/
theorem stepResult (core : Core β) : StepResult core core.activity core.step := by
  unfold activity step
  cases latched : core.cpu.fault with
  | some fault => exact .dead latched
  | none =>
      cases stopped : core.cpu.stopped with
      | true => exact .stopped latched stopped
      | false =>
          simp only [Bool.false_eq_true, if_false]
          rw [serviceInterrupt_eq]
          cases pending : core.pending.1 with
          | none => exact stepResult_of_unserved latched stopped (.inl pending)
          | some interrupt =>
              cases enabled : core.cpu.enabled with
              | true => exact .dispatched latched stopped pending enabled
              | false => exact stepResult_of_unserved latched stopped (.inr enabled)

/-- A stopped processor looks at the lines of the buttons, and no time passes. -/
theorem step_of_stopped {core : Core β} (alive : core.cpu.fault = none)
    (stopped : core.cpu.stopped = true) : core.step = (.ok idleCycles, core.awaitButton) := by
  simp only [step, alive, stopped, if_true]

/-- A pending interrupt that is permitted is served. -/
theorem step_of_pending {core : Core β} {source : Interrupt} (alive : core.cpu.fault = none)
    (running : core.cpu.stopped = false) (enabled : core.cpu.enabled = true)
    (pending : core.pending.1 = some source) :
    core.step =
      (.ok dispatchCycles, (core.lookedAround.dispatch source).elapse dispatchCycles) := by
  simp only [step, alive, running, serviceInterrupt_eq, pending, enabled, Bool.false_eq_true,
    if_false, if_true]

/-! ## What decides about interrupts, waiting and faults -/

variable (core : Core β)

@[simp] theorem control_fetchByte : core.fetchByte.2.cpu.control = core.cpu.control := by
  simp only [fetchByte]
  split <;> rfl

@[simp] theorem control_fetchOperands (form : Form) :
    (core.fetchOperands form).2.cpu.control = core.cpu.control := by
  cases form with
  | inherent instruction | undefined => rfl
  | byte instruction => exact core.control_fetchByte
  | word instruction =>
      simp only [fetchOperands, fetchWord, control_fetchByte]

theorem control_of_fetched {core opened fetched : Core β} {opcode : Byte} {form : Form}
    {found : Option Instruction} (read : core.fetchByte = (opcode, opened))
    (operands : opened.fetchOperands form = (found, fetched)) :
    fetched.cpu.control = core.cpu.control := by
  have first := core.control_fetchByte
  have second := opened.control_fetchOperands form
  rw [read] at first
  rw [operands] at second
  exact second.trans first

@[simp] theorem control_readOperand (operand : Operand) :
    (core.readOperand operand).2.cpu.control = core.cpu.control := by
  cases operand <;> rfl

@[simp] theorem control_writeOperand (operand : Operand) (value : Byte) :
    (core.writeOperand operand value).cpu.control = core.cpu.control := by
  cases operand <;> rfl

/-- Looking for an interrupt only ends waiting. -/
theorem control_lookedAround :
    core.lookedAround.cpu.control =
      { core.cpu.control with halted := core.cpu.halted && core.pending.1.isNone } := by
  unfold lookedAround
  cases core.pending.1 with
  | none => simp [pending, State.control]
  | some interrupt => simp [pending, modifyCpu, State.control]

/-- What an instruction does to the state beside the registers. -/
def controlAfter (core : Core β) : Instruction → State
  | .stop => { core.cpu.control with stopped := true }
  | .halt =>
    if core.cpu.enabled || core.pending.1.isNone then
      { core.cpu.control with halted := true }
    else core.cpu.control
  | .disableInterrupts => core.cpu.control.disableInterrupts
  | .enableInterrupts => core.cpu.control.requestInterrupts
  | .returnEnabling => { core.cpu.control with enabled := true }
  | _ => core.cpu.control

theorem control_execute (instruction : Instruction) :
    (core.execute instruction).cpu.control = core.controlAfter instruction := by
  cases instruction with
  | halt =>
      simp only [execute, halt, controlAfter]
      cases core.cpu.enabled with
      | true => rfl
      | false => cases core.pending.1 <;> rfl
  | enableInterrupts => exact core.cpu.control_requestInterrupts
  | jumpRelative condition displacement | jump condition target | call condition target
  | ret condition =>
      simp only [execute, controlAfter]
      split <;> rfl
  | load target source | increment target | decrement target | shift shift target
  | resetBit index target | setBit index target =>
      simp [execute, controlAfter]
  | accumulate operation source | testBit index source =>
      simp [execute, controlAfter]
  | loadByte target value => exact core.control_writeOperand target value
  | _ => rfl

/-- An instruction causes no fault; only fetching one can. -/
theorem fault_execute (instruction : Instruction) :
    (core.execute instruction).cpu.fault = core.cpu.fault := by
  have same := congrArg State.fault (core.control_execute instruction)
  refine same.trans ?_
  cases instruction with
  | halt =>
      simp only [controlAfter]
      split <;> rfl
  | enableInterrupts =>
      simp only [controlAfter, State.requestInterrupts]
      split <;> rfl
  | _ => rfl

theorem fault_applyEnableDelay (state : State) :
    state.applyEnableDelay.fault = state.fault := by
  unfold State.applyEnableDelay
  split
  · rfl
  · split <;> rfl

theorem fault_awaitButton : core.awaitButton.cpu.fault = core.cpu.fault := by
  unfold awaitButton
  simp only
  split <;> rfl

theorem fault_step (sane : core.activity ≠ .faulted) : core.step.2.cpu.fault = none := by
  have outcome := core.stepResult
  have around := congrArg State.fault core.control_lookedAround
  generalize core.activity = activity at outcome sane
  generalize core.step = result at outcome ⊢
  cases outcome with
  | dead | undefined => exact absurd rfl sane
  | stopped alive => exact core.fault_awaitButton.trans alive
  | dispatched alive => exact around.trans alive
  | halted alive => exact around.trans alive
  | @executed alive _ _ _ _ _ fetched read instruction named =>
      have ready := congrArg State.fault (control_of_fetched read named)
      refine (fault_applyEnableDelay _).trans ?_
      exact (fetched.fault_execute instruction).trans (ready.trans (around.trans alive))

end Core

end GameBoy.Cpu
