import GameBoy.Proofs.Cpu.Activity
import GameBoy.Proofs.Cpu.Footprint

/-!
# Undefined opcodes

A step comes to fetching an opcode unless the program has ended, the processor waits, or an
interrupt is dispatched. If the opcode names no instruction, the step fails. By then it has
asked for an interrupt and read one byte, and the processor has moved past that byte; nothing
else has happened on the bus, and of the processor's state nothing else is touched but the
latch that ends the program. No other step fails before one has.
-/

namespace GameBoy.Cpu

/-- The forms of the listed opcodes name no instruction, and no other form does. -/
theorem decode_eq_undefined_iff (opcode : Byte) :
    decode opcode = .undefined ↔ opcode ∈ Opcode.undefined := by
  have listed := isUndefined_decode opcode
  rw [← List.contains_iff_mem, ← listed]
  cases decode opcode <;> simp [Form.isUndefined]

/-- The processor behind an opcode: awake, and past the byte unless its fetch is to be
repeated. -/
def State.pastOpcode (state : State) : State :=
  { state with
    registers :=
      { state.registers with
        pc := if state.repeatFetch then state.registers.pc else state.registers.pc + 1 }
    repeatFetch := false
    halted := false }

namespace Core

variable {β : Type} [Bus β]

/-- The opcode that the next step fetches. None is fetched after a fault, while the processor
waits, or when an interrupt is dispatched. -/
def opcode? (core : Core β) : Option Byte :=
  let (interrupt, asked) := core.pending
  if core.cpu.fault.isSome || core.cpu.stopped then none
  else if interrupt.isSome && core.cpu.enabled then none
  else if core.cpu.halted && interrupt.isNone then none
  else some (asked.read core.registers.pc).1

variable {core opened fetched : Core β} {opcode : Byte}

/-! ## Looking around and fetching -/

theorem lookedAround_eq (core : Core β) :
    core.lookedAround =
      { core with
        cpu := { core.cpu with halted := core.cpu.halted && core.pending.1.isNone }
        bus := (Bus.pending core.bus).2 } := by
  unfold lookedAround
  cases core.pending.1 with
  | none => simp [pending]
  | some interrupt => simp [pending, modifyCpu]

theorem fetchByte_eq (core : Core β) :
    core.fetchByte =
      ((AddressSpace.read core.bus core.registers.pc).1,
        { core with
          cpu := { core.cpu.pastOpcode with halted := core.cpu.halted }
          bus := (AddressSpace.read core.bus core.registers.pc).2 }) := by
  simp only [fetchByte, State.pastOpcode]
  cases repeats : core.cpu.repeatFetch with
  | true => simp [read, modifyCpu, repeats, registers]
  | false => simp [read, setPc, modifyRegisters, repeats, registers]

theorem fetchOperands_eq_none (operands : opened.fetchOperands (decode opcode) = (none, fetched)) :
    opcode ∈ Opcode.undefined ∧ fetched = opened := by
  rw [← decode_eq_undefined_iff]
  generalize decode opcode = form at operands ⊢
  cases form with
  | inherent | byte | word => exact nomatch congrArg Prod.fst operands
  | undefined => exact ⟨rfl, (congrArg Prod.snd operands).symm⟩

/-- A step that is not kept from it fetches what it finds after it has looked around. -/
theorem opcode?_of_fetched (alive : core.cpu.fault = none) (running : core.cpu.stopped = false)
    (unserved : core.pending.1 = none ∨ core.cpu.enabled = false)
    (awake : core.lookedAround.cpu.halted = false)
    (read : core.lookedAround.fetchByte = (opcode, opened)) : core.opcode? = some opcode := by
  rw [lookedAround_eq] at awake read
  rw [fetchByte_eq] at read
  have roused : (core.cpu.halted && core.pending.1.isNone) = false := awake
  have found : (AddressSpace.read (Bus.pending core.bus).2 core.registers.pc).1 = opcode :=
    congrArg Prod.fst read
  have idle : (core.pending.1.isSome && core.cpu.enabled) = false := by
    rcases unserved with none | disabled
    · rw [none]
      rfl
    · rw [disabled, Bool.and_false]
  have reached : core.opcode? =
      some (AddressSpace.read (Bus.pending core.bus).2 core.registers.pc).1 := by
    simp only [opcode?, alive, running, idle, roused]
    rfl
  rw [reached, found]

/-! ## Steps that fail -/

/-- A program that has ended goes no further. -/
theorem step_of_fault {fault : Fault} (latched : core.cpu.fault = some fault) :
    core.step = (.error fault, core) := by
  rw [step, latched]

/-- What a step does that fetches an undefined opcode. -/
theorem step_of_undefined (fetches : core.opcode? = some opcode)
    (unnamed : opcode ∈ Opcode.undefined) :
    core.step =
      (.error { opcode, address := core.registers.pc },
        { cpu :=
            { core.cpu.pastOpcode with
              fault := some { opcode, address := core.registers.pc } }
          bus := (AddressSpace.read (Bus.pending core.bus).2 core.registers.pc).2
          journal := core.journal.push
            (.illegalOpcode { opcode, address := core.registers.pc }
              core.cpu.pastOpcode.registers) }) := by
  have outcome := core.stepResult
  generalize core.activity = activity at outcome
  generalize core.step = result at outcome ⊢
  cases outcome with
  | dead latched => simp [opcode?, latched] at fetches
  | stopped alive stopped => simp [opcode?, stopped] at fetches
  | dispatched alive running pending enabled =>
      simp [opcode?, alive, running, pending, enabled] at fetches
  | halted alive running unserved halted =>
      -- A pending interrupt would have ended the wait.
      rw [lookedAround_eq] at halted
      have asleep := Bool.and_eq_true_iff.mp halted
      simp [opcode?, asleep] at fetches
  | undefined alive running unserved awake read unfound =>
      have same := opcode?_of_fetched alive running unserved awake read
      cases fetches.symm.trans same
      obtain ⟨-, rfl⟩ := fetchOperands_eq_none unfound
      rw [lookedAround_eq] at awake read ⊢
      rw [fetchByte_eq] at read
      cases read
      have roused : (core.cpu.halted && core.pending.1.isNone) = false := awake
      simp [raiseFault, report, modifyCpu, State.pastOpcode, registers, roused]
  | executed alive running unserved awake read named =>
      have same := opcode?_of_fetched alive running unserved awake read
      cases fetches.symm.trans same
      rw [(decode_eq_undefined_iff opcode).mpr unnamed] at named
      have found : none = some _ := congrArg Prod.fst named
      exact absurd found.symm (Option.some_ne_none _)

/-- A step fails because of an undefined opcode: one that it fetches, or one that has ended
the program before. -/
theorem step_fails_iff (core : Core β) (fault : Fault) :
    core.step.1 = .error fault ↔
      core.cpu.fault = some fault ∨
        ∃ opcode ∈ Opcode.undefined, core.opcode? = some opcode ∧
          fault = { opcode, address := core.registers.pc } := by
  constructor
  · intro failed
    have outcome := core.stepResult
    generalize core.activity = activity at outcome
    generalize core.step = result at outcome failed
    cases outcome with
    | dead latched =>
        cases failed
        exact .inl latched
    | stopped | dispatched | halted | executed => exact nomatch failed
    | undefined alive running unserved awake read unfound =>
        cases failed
        have fetches := opcode?_of_fetched alive running unserved awake read
        refine .inr ⟨_, (fetchOperands_eq_none unfound).1, fetches, ?_⟩
        rw [lookedAround_eq]
        rfl
  · rintro (latched | ⟨opcode, unnamed, fetches, rfl⟩)
    · rw [step_of_fault latched]
    · rw [step_of_undefined fetches unnamed]

/-- A program does not end while the processor is stopped, nor does it stop after its end. -/
theorem alive_of_stopped_step (alive : core.cpu.stopped = true → core.cpu.fault = none)
    (stopped : core.step.2.cpu.stopped = true) : core.step.2.cpu.fault = none := by
  by_cases faulted : core.activity = .faulted
  · have outcome := core.stepResult
    rw [faulted] at outcome
    generalize core.step = result at outcome stopped ⊢
    cases outcome with
    | dead => exact alive stopped
    | undefined _ running _ _ read unnamed =>
        have same := (control_of_fetched read unnamed).trans core.control_lookedAround
        have still := (congrArg State.stopped same).trans running
        exact nomatch stopped.symm.trans still
  · exact core.fault_step faulted

end Core

end GameBoy.Cpu
