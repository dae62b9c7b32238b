import GameBoy.Proofs.Console.InterruptRequests
import GameBoy.Proofs.Cpu.Draining

/-!
# Polling the registers of the interrupts

The board answers from its interrupt controller which interrupt to serve, and confirms one
there. Through its registers it would answer the same: the bits that read as one belong to
no source, and writing them back drops them. For this no such bit may be requested, which
holds of every board that occurs and is kept by whatever the processor does. Hence a
processor that polls the registers runs as one that asks the controller.
-/

namespace GameBoy

open Cpu

/-! ## The request register -/

namespace InterruptController

/-- No bit is requested that belongs to no source. -/
def SourcesOnly (controller : InterruptController) : Prop :=
  controller.requested &&& sources = controller.requested

variable {controller : InterruptController}

theorem SourcesOnly.request (only : controller.SourcesOnly) (source : Interrupt) :
    (controller.request source).SourcesOnly := by
  simp only [SourcesOnly, InterruptController.request]
  rw [Byte.and_or_distrib_right, only, UInt8.and_comm, Interrupt.sources_and_mask]

theorem SourcesOnly.acknowledge (only : controller.SourcesOnly) (source : Interrupt) :
    (controller.acknowledge source).SourcesOnly := by
  simp only [SourcesOnly, InterruptController.acknowledge]
  rw [UInt8.and_assoc, UInt8.and_comm _ sources, ← UInt8.and_assoc, only]

theorem sourcesOnly_writeRequested (controller : InterruptController) (value : Byte) :
    (controller.writeRequested value).SourcesOnly := by
  rw [SourcesOnly, writeRequested, UInt8.and_assoc, UInt8.and_self]

/-- The register shows the source to serve next. -/
theorem highest_readRequested (controller : InterruptController) :
    Interrupt.highest (controller.enabled &&& controller.readRequested) = controller.pending := by
  rw [pending, ← Interrupt.highest_and_sources, UInt8.and_assoc, readRequested_and_sources,
    ← UInt8.and_assoc, Interrupt.highest_and_sources]

/-- Writing back what the register shows, without the bit of a source, clears that bit. -/
theorem SourcesOnly.writeRequested (only : controller.SourcesOnly) (source : Interrupt) :
    controller.writeRequested (controller.readRequested &&& ~~~source.mask) =
      controller.acknowledge source := by
  have same : controller.readRequested &&& ~~~source.mask &&& sources =
      controller.requested &&& ~~~source.mask := by
    rw [UInt8.and_assoc, UInt8.and_comm _ sources, ← UInt8.and_assoc, readRequested_and_sources,
      only]
  rw [InterruptController.writeRequested, same, InterruptController.acknowledge]

end InterruptController

/-! ## The board -/

namespace Board

/-- No interrupt is requested that no source has. -/
def SourcesOnly (board : Board) : Prop := board.interrupts.SourcesOnly

variable {board : Board}

theorem sourcesOnly_receiveAll {interrupts : InterruptController} (only : interrupts.SourcesOnly)
    (signals : List Lcd.Signal) : (receiveAll interrupts signals).1.SourcesOnly := by
  induction signals generalizing interrupts with
  | nil => exact only
  | cons signal signals ih =>
      refine ih ?_
      cases signal with
      | switchedOff | switchedOn => exact only
      | statEdge => exact only.request .stat
      | verticalBlank => exact only.request .vblank

theorem SourcesOnly.elapse (only : board.SourcesOnly) (cycles : Nat) :
    (board.elapse cycles).1.SourcesOnly := by
  have timed : (board.runTimer cycles).interrupts.SourcesOnly := by
    simp only [runTimer]
    split
    · exact only
    · exact only.request .timer
  exact sourcesOnly_receiveAll timed _

theorem SourcesOnly.writeDevice (only : board.SourcesOnly) (register : Memory.DeviceRegister)
    (value : Byte) : (board.writeDevice register value).1.SourcesOnly := by
  cases register with
  | interruptRequest => exact board.interrupts.sourcesOnly_writeRequested value
  | lcd register => exact sourcesOnly_receiveAll only _
  | bootOverlay =>
      simp only [Board.writeDevice, unmapBoot]
      split <;> exact only
  | _ => exact only

theorem SourcesOnly.write (only : board.SourcesOnly) (address : Word) (value : Byte) :
    (board.write address value).1.SourcesOnly := by
  simp only [Board.write, writeRegion]
  split
  case h_7 => exact only.writeDevice _ value
  all_goals exact only

/-- The processor requests nothing that no source has. -/
theorem keeps_sourcesOnly : Keeps SourcesOnly where
  read _ only := only
  write address value only := only.write address value
  elapse cycles _ only := only.elapse cycles
  pending only := only
  acknowledge source only := InterruptController.SourcesOnly.acknowledge only source

theorem SourcesOnly.access (only : board.SourcesOnly) (access : Access) :
    (board.access access).SourcesOnly := by
  cases access with
  | write address value => exact only.write address value
  | elapse cycles => exact only.elapse cycles

theorem SourcesOnly.acknowledged (only : board.SourcesOnly) (activity : Activity) :
    (board.acknowledged activity).SourcesOnly := by
  cases activity with
  | dispatched source => exact InterruptController.SourcesOnly.acknowledge only source
  | faulted | idle | executed => exact only

theorem write_request (board : Board) (value : Byte) :
    board.write AddressSpace.requestAddress value =
      ({ board with interrupts := board.interrupts.writeRequested value }, []) := by
  rw [Board.write, region_request]
  rfl

/-- The registers show the interrupt that the controller names. -/
theorem pollPending_eq (board : Board) : AddressSpace.pollPending board = Bus.pending board := by
  simp only [AddressSpace.pollPending, AddressSpace.read]
  rw [read_enable, read_request, InterruptController.highest_readRequested]
  rfl

/-- Writing the register clears what the controller clears. -/
theorem SourcesOnly.pollAcknowledge_eq (only : board.SourcesOnly) (source : Interrupt) :
    AddressSpace.pollAcknowledge board source = Bus.acknowledge board source := by
  simp only [AddressSpace.pollAcknowledge, AddressSpace.read, AddressSpace.write]
  rw [read_request, write_request, InterruptController.SourcesOnly.writeRequested only]
  rfl

end Board

/-! ## Processors that poll -/

namespace Cpu

/-- Where polling agrees with the bus under an invariant that all its operations keep, the
processor cannot tell the two apart. -/
theorem Keeps.polled_simulation {β : Type} [bus : Bus β] {Holds : β → Prop}
    (keeps : Keeps Holds)
    (pending : ∀ {state : β}, Holds state → AddressSpace.pollPending state = Bus.pending state)
    (acknowledge : ∀ {state : β} (source : Interrupt), Holds state →
      AddressSpace.pollAcknowledge state source = Bus.acknowledge state source) :
    @Simulation β β (Bus.polled β) bus fun left right => left = right ∧ Holds right := by
  refine @Simulation.mk β β (Bus.polled β) bus _ ?read ?write ?elapse ?pending ?acknowledge
  case read => exact keeps.simulation.read
  case write => exact keeps.simulation.write
  case elapse => exact keeps.simulation.elapse
  case pending =>
    rintro left right ⟨rfl, holds⟩
    have same := pending holds
    exact ⟨congrArg Prod.fst same, congrArg Prod.snd same, keeps.pending holds⟩
  case acknowledge =>
    rintro left right source ⟨rfl, holds⟩
    have same := acknowledge source holds
    exact ⟨⟨congrArg Prod.fst same, keeps.acknowledge source holds⟩, congrArg Prod.snd same⟩

namespace Simulation

variable {β γ : Type} [Bus β] [Bus γ] {Related : β → γ → Prop}
variable {left : Core β} {right : Core γ}

/-- A step does the same on related buses. -/
theorem activity_alike (simulation : Simulation Related)
    (alike : Core.Alike Related left right) : left.activity = right.activity := by
  have asked := simulation.pending_alike alike
  have served := simulation.serviceInterrupt_alike alike
  simp only [Core.activity]
  -- The bus is asked twice: whether an interrupt is served, and for the one that is.
  rw [← alike.cpu, ← asked.value]
  generalize left.serviceInterrupt = leftService at served ⊢
  generalize right.serviceInterrupt = rightService at served ⊢
  obtain ⟨leftServed, leftCore⟩ := leftService
  obtain ⟨rightServed, rightCore⟩ := rightService
  obtain ⟨value, core⟩ := served
  simp only at value core
  subst value
  cases leftServed with
  | true => rfl
  | false =>
      have opcode := simulation.fetchByte_alike core
      have operands := simulation.fetchOperands_alike opcode.core (decode leftCore.fetchByte.1)
      simp only
      rw [← core.cpu, ← opcode.value, operands.value]

/-- So do some steps. -/
theorem run_alike (simulation : Simulation Related) (alike : Core.Alike Related left right)
    (steps : Nat) :
    left.trace steps = right.trace steps ∧
      Core.Alike Related (left.stepped steps) (right.stepped steps) := by
  induction steps generalizing left right with
  | zero => exact ⟨rfl, alike⟩
  | succ steps ih =>
      have stepped := simulation.step_alike alike
      obtain ⟨traced, arrived⟩ := ih stepped.core
      refine ⟨?_, arrived⟩
      rw [Core.trace, Core.trace, simulation.activity_alike alike, stepped.value,
        stepped.core.registers, traced]

end Simulation

end Cpu

namespace Console

theorem sourcesOnly_powerOn (config : Config) (bootRom : Option BootRom)
    (cartridge : Option Cartridge) :
    (powerOn config bootRom cartridge).board.SourcesOnly := by
  have unrequested : ({} : InterruptController).SourcesOnly := UInt8.zero_and
  simp only [powerOn]
  split
  · exact unrequested
  · exact unrequested.request .vblank

/-- Whatever the host asks for, no interrupt is requested that no source has. -/
theorem sourcesOnly_after (config : Config) (history : List Operation) :
    (after config history).board.SourcesOnly := by
  refine (switchedOn_after config history).keeps (·.board.SourcesOnly)
    (sourcesOnly_powerOn config) fun console move only => ?_
  cases move with
  | step => exact Board.keeps_sourcesOnly.step console.core only
  | setButton button pressed =>
      simp only [Console.move, setButton, Board.setButton]
      split
      · exact InterruptController.SourcesOnly.request only .joypad
      · exact only
  | loadRam | noticeFrame => exact only

/-- The answers from the interrupt controller are those that polling the registers gives. On
every board that occurs, between two steps or after an acknowledgement and any accesses
within one, reading both registers names the interrupt that the controller names and changes
nothing, and writing the request register back without the bit of a source leaves the board
that the controller's acknowledgement leaves, without an event. So from every console that
occurs and for any number of steps, a processor that polls does what one does that asks the
controller: every step does the same with the same result, and the processor, the board and
the events are the same. -/
theorem polling_agrees (config : Config) (history : List Operation) :
    (∀ (activity : Activity) (accesses : List Access),
      let board := ((after config history).board.acknowledged activity).accessAll accesses
      AddressSpace.pollPending board = Bus.pending board ∧
        ∀ source : Interrupt,
          AddressSpace.pollAcknowledge board source = Bus.acknowledge board source) ∧
    ∀ steps : Nat,
      let core := (after config history).core
      @Core.trace Board (Bus.polled Board) core steps = core.trace steps ∧
        @Core.stepped Board (Bus.polled Board) core steps = core.stepped steps := by
  have only := sourcesOnly_after config history
  constructor
  · intro activity accesses board
    have here : board.SourcesOnly :=
      Board.accessAll_keeps Board.SourcesOnly (fun access _ _ only => only.access access)
        (only.acknowledged activity)
    exact ⟨board.pollPending_eq, here.pollAcknowledge_eq⟩
  · intro steps core
    have simulation := Board.keeps_sourcesOnly.polled_simulation
      (fun {board} _ => board.pollPending_eq) (fun source only => only.pollAcknowledge_eq source)
    obtain ⟨traced, ⟨cpu, ⟨bus, -⟩, journal⟩⟩ :=
      @Simulation.run_alike Board Board (Bus.polled Board) _ _ core core simulation
        ⟨rfl, ⟨rfl, only⟩, rfl⟩ steps
    refine ⟨traced, ?_⟩
    generalize core.stepped steps = direct at cpu bus journal ⊢
    cases direct
    cases cpu
    cases bus
    cases journal
    rfl

end Console

end GameBoy
