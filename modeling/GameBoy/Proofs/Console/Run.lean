import GameBoy.Proofs.Console.Loading
import GameBoy.Proofs.Cpu.Footprint

/-!
# Runs between power cycles

Between two power cycles a console moves: it is stepped, a button is pressed or
released, the cartridge's RAM is loaded, or a complete frame is noticed. A frame is a
run of such moves, and every console that can occur is reached by them from one that
has just been switched on. What the processor does to the board on the way is the list
of the accesses of the run.
-/

namespace GameBoy

open Cpu

/-- What can happen to a console that stays switched on. -/
inductive Move where
  | step
  | setButton (button : Button) (pressed : Bool)
  | loadRam (data : Array Byte)
  | noticeFrame

namespace Console

/-- The console after a move. -/
def move (console : Console) : Move → Console
  | .step => console.step.console
  | .setButton button pressed => console.setButton button pressed
  | .loadRam data => console.loadRam data
  | .noticeFrame => console.clearReady

/-- The console after some moves. -/
def moveAll (console : Console) : List Move → Console
  | [] => console
  | move :: moves => (console.move move).moveAll moves

theorem moveAll_append (console : Console) (first second : List Move) :
    console.moveAll (first ++ second) = (console.moveAll first).moveAll second := by
  induction first generalizing console with
  | nil => rfl
  | cons move first ih => exact ih _

/-- What every move keeps holds after a run. -/
theorem moveAll_keeps (Holds : Console → Prop)
    (keeps : ∀ console move, Holds console → Holds (console.move move)) {console : Console}
    (holds : Holds console) (moves : List Move) : Holds (console.moveAll moves) := by
  induction moves generalizing console with
  | nil => exact holds
  | cons move moves ih => exact ih (keeps console move holds)

/-! ## Runs behind histories -/

/-- The console is reached by moves from one that has just been switched on. -/
def SwitchedOn (config : Config) (console : Console) : Prop :=
  ∃ bootRom cartridge moves, console = (powerOn config bootRom cartridge).moveAll moves

theorem switchedOn_powerOn (config : Config) (bootRom : Option BootRom)
    (cartridge : Option Cartridge) :
    SwitchedOn config (powerOn config bootRom cartridge) :=
  ⟨bootRom, cartridge, [], rfl⟩

theorem SwitchedOn.move {config : Config} {console : Console}
    (on : SwitchedOn config console) (next : Move) : SwitchedOn config (console.move next) := by
  obtain ⟨bootRom, cartridge, moves, rfl⟩ := on
  exact ⟨bootRom, cartridge, moves ++ [next], (moveAll_append _ moves [next]).symm⟩

theorem SwitchedOn.moveAll {config : Config} {console : Console}
    (on : SwitchedOn config console) (moves : List Move) :
    SwitchedOn config (console.moveAll moves) := by
  obtain ⟨bootRom, cartridge, earlier, rfl⟩ := on
  exact ⟨bootRom, cartridge, earlier ++ moves, (moveAll_append _ earlier moves).symm⟩

/-- What holds of every console that has just been switched on, and what every move keeps,
holds as long as the console stays on. -/
theorem SwitchedOn.keeps {config : Config} {console : Console} (on : SwitchedOn config console)
    (Holds : Console → Prop)
    (start : ∀ bootRom cartridge, Holds (powerOn config bootRom cartridge))
    (keeps : ∀ console move, Holds console → Holds (console.move move)) : Holds console := by
  obtain ⟨bootRom, cartridge, moves, rfl⟩ := on
  exact moveAll_keeps Holds keeps (start bootRom cartridge) moves

/-- A frame is a run of steps, with a frame noticed before and after. -/
theorem SwitchedOn.renderFrame {config : Config} {console : Console}
    (on : SwitchedOn config console) : SwitchedOn config console.renderFrame.console := by
  refine runFrame_keeps (SwitchedOn config) ?_ ?_ _ (on.move .noticeFrame) 0 #[]
  · exact fun before switched => switched.move .step
  · exact fun before switched => switched.move .noticeFrame

theorem SwitchedOn.config_eq {config : Config} {console : Console}
    (on : SwitchedOn config console) : console.config = config := by
  obtain ⟨bootRom, cartridge, moves, rfl⟩ := on
  refine moveAll_keeps (·.config = config) ?_ (config_powerOn _ _ _) moves
  intro before move same
  cases move <;> exact same

theorem SwitchedOn.perform {config : Config} {console : Console}
    (on : SwitchedOn config console) (operation : Operation) :
    SwitchedOn config (console.perform operation).2 := by
  have afresh (bootRom : Option BootRom) (cartridge : Option Cartridge) :
      SwitchedOn config (powerOn console.config bootRom cartridge) :=
    on.config_eq.symm ▸ switchedOn_powerOn config bootRom cartridge
  cases operation with
  | loadBootRom image => exact perform_loadBootRom_keeps (SwitchedOn config) on afresh image
  | loadCartridge image => exact perform_loadCartridge_keeps (SwitchedOn config) on afresh image
  | reset => exact perform_reset ▸ afresh _ _
  | loadRam data => exact on.move (.loadRam data)
  | step => exact on.move .step
  | renderFrame => exact on.renderFrame
  | setButton button pressed => exact on.move (.setButton button pressed)

/-- Every console that can occur is reached by moves from one that has just been
switched on. -/
theorem switchedOn_after (config : Config) (history : List Operation) :
    SwitchedOn config (after config history) := by
  have start : SwitchedOn config (new config) :=
    new_eq_powerOn config ▸ switchedOn_powerOn _ _ _
  refine performAll_keeps (SwitchedOn config) ?_ start history
  exact fun console operation on => on.perform operation

/-! ## Accesses -/

/-- The processor of a console, on a board whose accesses are noted. -/
def recorded (console : Console) : Core (Recorded Board) :=
  { cpu := console.cpu, bus := { bus := console.board } }

/-- The accesses of a move to the board: only a step has any. -/
def moveAccesses (console : Console) : Move → List Access
  | .step => console.recorded.step.2.accesses
  | _ => []

/-- The accesses of a run, move by move. -/
def accesses (console : Console) : List Move → List (List Access)
  | [] => []
  | move :: moves => console.moveAccesses move :: (console.move move).accesses moves

/-- What a move does to the board. -/
theorem footprint_moveAccesses (console : Console) (move : Move) :
    Footprint (console.moveAccesses move) := by
  cases move with
  | step =>
      obtain ⟨accesses, left, footprint⟩ := console.recorded.footprint_step
      rw [moveAccesses, left]
      exact footprint
  | setButton | loadRam | noticeFrame => exact .still

theorem footprint_accesses (console : Console) (moves : List Move) :
    ∀ accesses ∈ console.accesses moves, Footprint accesses := by
  induction moves generalizing console with
  | nil => exact List.forall_mem_nil _
  | cons move moves ih =>
      exact List.forall_mem_cons.mpr ⟨console.footprint_moveAccesses move, ih _⟩

/-- Noting the accesses does not change what a step does to the board. -/
theorem bus_recorded_step (console : Console) :
    console.recorded.step.2.bus.bus = console.step.console.board := by
  have alike : Core.Alike (fun noted board => noted.bus = board) console.recorded
      { cpu := console.cpu, bus := console.board } := ⟨rfl, rfl, rfl⟩
  exact (Recorded.simulation.step_alike alike).core.bus

end Console

end GameBoy
