import GameBoy.Proofs.Console.Loading
import GameBoy.Proofs.Console.Access
import GameBoy.Proofs.Cpu.Faults

/-!
# Programs that have ended

An undefined opcode ends the program of a console. From then on every step and every frame
fails for the same reason and leaves the console as it is, while buttons and RAM still
answer; only what switches the console off and on again, a reset or an accepted image, makes
it run again.
-/

namespace GameBoy

open Cpu

/-- The operations that switch a console off and on again. -/
def Operation.Restarts : Operation → Prop
  | .reset => True
  | .loadBootRom image => image.size = 0x100
  | .loadCartridge image => Cartridge.headerEnd ≤ image.size
  | _ => False

namespace Console

variable {console : Console} {fault : Fault} {operation : Operation}

theorem fault_powerOn (config : Config) (bootRom : Option BootRom) (cartridge : Option Cartridge) :
    (powerOn config bootRom cartridge).cpu.fault = none := by
  simp only [powerOn]
  split <;> rfl

/-- A console that restarts has no fault. -/
theorem fault_of_restarts (console : Console) (restarts : operation.Restarts) :
    (console.perform operation).2.cpu.fault = none := by
  cases operation with
  | reset =>
      rw [perform_reset]
      exact fault_powerOn _ _ _
  | loadBootRom image =>
      rw [perform_loadBootRom_of_exact restarts]
      exact fault_powerOn _ _ _
  | loadCartridge image =>
      rw [perform_loadCartridge_of_ok (Cartridge.load_of_long restarts)]
      exact fault_powerOn _ _ _
  | loadRam | step | renderFrame | setButton => exact restarts.elim

/-! ## After a fault -/

/-- A step after a fault fails for the same reason, and changes nothing. -/
theorem step_of_fault (latched : console.cpu.fault = some fault) :
    console.step = { result := .error fault, console, events := #[] } := by
  have core : Core.step { cpu := console.cpu, bus := console.board } =
      (.error fault, { cpu := console.cpu, bus := console.board }) := Core.step_of_fault latched
  rw [step, core]

/-- A frame after a fault fails for the same reason. All it does is to notice a frame that
was completed before. -/
theorem renderFrame_of_fault (latched : console.cpu.fault = some fault) :
    console.renderFrame =
      { result := .error fault, console := console.clearReady, events := #[] } := by
  have still : console.clearReady.cpu.fault = some fault := latched
  have failed := step_of_fault still
  rw [renderFrame, runFrame_of_fault (congrArg Outcome.result failed), failed]
  rfl

/-- Nothing but a restart reaches the processor after a fault. -/
theorem cpu_perform_of_fault (latched : console.cpu.fault = some fault)
    (on : ¬ operation.Restarts) : (console.perform operation).2.cpu = console.cpu := by
  cases operation with
  | reset => exact absurd trivial on
  | loadBootRom image => rw [perform_loadBootRom_of_wrong on]
  | loadCartridge image =>
      obtain ⟨error, rejected⟩ := Cartridge.exists_error_of_short (Nat.lt_of_not_le on)
      rw [perform_loadCartridge_of_error rejected]
  | step => rw [perform, step_of_fault latched, afterStep]
  | renderFrame =>
      rw [perform, renderFrame_of_fault latched]
      rfl
  | loadRam | setButton => rfl

/-- A fault stays until the console restarts. -/
theorem cpu_performAll_of_fault (latched : console.cpu.fault = some fault)
    {operations : List Operation} (on : ∀ operation ∈ operations, ¬ operation.Restarts) :
    (console.performAll operations).2.cpu = console.cpu := by
  induction operations generalizing console with
  | nil => rfl
  | cons operation operations ih =>
      obtain ⟨first, rest⟩ := List.forall_mem_cons.mp on
      have same := cpu_perform_of_fault latched first
      have later := ih ((congrArg State.fault same).trans latched) rest
      exact later.trans same

/-- An undefined opcode is fatal, touches nothing else and stays in effect. For every
processor and every bus: a step that fetches one fails with the opcode and its address. It
asks the bus for an interrupt and for the opcode, and neither writes nor waits; of the
processor it touches the program counter, which goes past the opcode unless the fetch is to be
repeated, the latch for that, the halted flag, and the fault. No step fails for another reason
than this or a fault before it. After a fault every step, and every frame, fails for that
reason, whatever the host does meanwhile, and leaves the console as it is, except that a frame
that was completed before is noticed. Only a reset and an accepted image clear the fault. -/
theorem undefined_opcode_fatal :
    (∀ {β : Type} [Bus β] (core : Core β), ∀ opcode ∈ Opcode.undefined,
      core.opcode? = some opcode →
        let fault : Fault := { opcode, address := core.registers.pc }
        core.step.1 = .error fault ∧
          core.step.2.cpu =
            { core.cpu with
              registers :=
                { core.cpu.registers with
                  pc := if core.cpu.repeatFetch then core.cpu.registers.pc
                    else core.cpu.registers.pc + 1 }
              repeatFetch := false
              halted := false
              fault := some fault } ∧
          core.step.2.bus = (AddressSpace.read (Bus.pending core.bus).2 core.registers.pc).2) ∧
      (∀ {β : Type} [Bus β] (core : Core (Recorded β)), ∀ opcode ∈ Opcode.undefined,
        core.opcode? = some opcode → core.step.2.accesses = core.accesses) ∧
      (∀ {β : Type} [Bus β] (core : Core β) (fault : Fault),
        core.step.1 = .error fault ↔
          core.cpu.fault = some fault ∨
            ∃ opcode ∈ Opcode.undefined, core.opcode? = some opcode ∧
              fault = { opcode, address := core.registers.pc }) ∧
      (∀ {β : Type} [Bus β] (core : Core β) (fault : Fault), core.cpu.fault = some fault →
        core.step = (.error fault, core)) ∧
      ∀ (console : Console) (fault : Fault) (operations : List Operation),
        console.cpu.fault = some fault → (∀ operation ∈ operations, ¬ operation.Restarts) →
          let later := (console.performAll operations).2
          later.cpu = console.cpu ∧
            later.perform .step = (.stepped (.error fault) #[], later) ∧
            later.perform .renderFrame = (.rendered (.error fault) #[], later.clearReady) ∧
            ∀ operation : Operation, operation.Restarts →
              (later.perform operation).2.cpu.fault = none := by
  refine ⟨?_, ?_, Core.step_fails_iff, fun core fault => Core.step_of_fault, ?_⟩
  · intro β bus core opcode unnamed fetches fault
    rw [Core.step_of_undefined fetches unnamed]
    exact ⟨rfl, rfl, rfl⟩
  · intro β bus core opcode unnamed fetches
    rw [Core.step_of_undefined fetches unnamed]
    rfl
  · intro console fault operations latched on later
    have same : later.cpu = console.cpu := cpu_performAll_of_fault latched on
    have still : later.cpu.fault = some fault := (congrArg State.fault same).trans latched
    refine ⟨same, ?_, ?_, fun operation restarts => later.fault_of_restarts restarts⟩
    · rw [perform, step_of_fault still, afterStep]
    · rw [perform, renderFrame_of_fault still, afterFrame]
      rfl

/-- A console whose program is an undefined opcode. -/
def illiterate : Console :=
  after { ramFill := .zeros } [.loadCartridge (Cartridge.shortestImage [(0x100, 0xD3)])]

/-- Its first step fails. After a button and another step the next frame fails for the same
reason, and a restart clears the fault. -/
theorem undefined_opcode_fatal_at_entry :
    let fault : Fault := { opcode := 0xD3, address := 0x100 }
    let ended := illiterate.step.console
    let later := (ended.performAll [.setButton .start true, .step]).2
    illiterate.core.opcode? = some 0xD3 ∧ illiterate.core.step.1 = .error fault ∧
      ended.cpu.fault = some fault ∧
      later.perform .renderFrame = (.rendered (.error fault) #[], later.clearReady) ∧
      ∀ operation : Operation, operation.Restarts →
        (later.perform operation).2.cpu.fault = none := by
  intro fault ended later
  obtain ⟨fatal, -, -, -, latches⟩ := undefined_opcode_fatal
  have fetches : illiterate.core.opcode? = some 0xD3 := by decide +kernel
  have unnamed : (0xD3 : Byte) ∈ Opcode.undefined := by decide
  have address : illiterate.core.registers.pc = 0x100 := by decide +kernel
  obtain ⟨failed, -⟩ := fatal illiterate.core 0xD3 unnamed fetches
  rw [address] at failed
  have latched : ended.cpu.fault = some fault := by decide +kernel
  have on : ∀ operation ∈ [Operation.setButton .start true, .step], ¬ operation.Restarts := by
    simp [Operation.Restarts]
  obtain ⟨-, -, frame, clears⟩ := latches ended fault _ latched on
  exact ⟨fetches, failed, latched, frame, clears⟩

end Console

end GameBoy
