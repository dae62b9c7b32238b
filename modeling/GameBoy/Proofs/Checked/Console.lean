import GameBoy.Proofs.Checked.Arithmetic
import GameBoy.Proofs.Checked.Board
import GameBoy.Proofs.Checked.PowerOn

/-!
# The console with checked operations

A guarded board is a board or the trace of a check that failed, and once a check
has failed it stays so. The processor runs on it as on any bus. The console that
is stepped on a guarded board, and whose other operations are checked as well,
answers every history as the console does: no check ever fails.
-/

namespace GameBoy

open Checked

/-- A board whose operations are checked, or nothing once a check has failed. -/
structure Guarded where
  board? : Option Board

namespace Guarded

/-- The board and the events after a checked operation. -/
def afterChange (result : Option (Board × List Event)) : Guarded × List Event :=
  match result with
  | none => (⟨none⟩, [])
  | some (board, events) => (⟨some board⟩, events)

instance : Cpu.AddressSpace Guarded where
  read guarded address :=
    match guarded.board?.bind (·.checkedRead address) with
    | none => (Cartridge.openBus, ⟨none⟩)
    | some value => (value, guarded)
  write guarded address value :=
    afterChange (guarded.board?.bind (·.checkedWrite address value))
  elapse guarded cycles := afterChange (guarded.board?.bind (·.checkedElapse cycles))

instance : Cpu.Bus Guarded where
  pending guarded := (guarded.board?.bind (·.interrupts.pending), guarded)
  acknowledge guarded interrupt :=
    afterChange (guarded.board?.map fun board =>
      ({ board with interrupts := board.interrupts.acknowledge interrupt }, []))

/-- The guarded board holds the board, which is in a state that can occur. -/
structure Guards (guarded : Guarded) (board : Board) : Prop where
  holds : guarded.board? = some board
  sound : board.lcd.Sound

theorem guards_afterChange {result : Option (Board × List Event)}
    {change : Board × List Event} (same : result = some change)
    (sound : change.1.lcd.Sound) :
    Guards (afterChange result).1 change.1 ∧ (afterChange result).2 = change.2 := by
  subst same
  exact ⟨⟨rfl, sound⟩, rfl⟩

/-- The processor does not notice the checks, since none of them fails. -/
theorem simulation : Cpu.Simulation Guards where
  read {guarded board} address guards := by
    have same : Cpu.AddressSpace.read guarded address = (board.read address, guarded) := by
      simp only [Cpu.AddressSpace.read, guards.holds, Option.bind_some, board.checkedRead_eq]
    rw [same]
    exact ⟨rfl, guards⟩
  write {guarded board} address value guards := by
    refine guards_afterChange ?_ (Board.sound_write guards.sound address value)
    rw [guards.holds, Option.bind_some, board.checkedWrite_eq]
    rfl
  elapse {guarded board} cycles _ guards := by
    refine guards_afterChange ?_ (Board.sound_elapse guards.sound cycles)
    rw [guards.holds, Option.bind_some, Board.checkedElapse_eq guards.sound]
    rfl
  pending {guarded board} guards := by
    refine ⟨?_, guards⟩
    simp only [Cpu.Bus.pending, guards.holds, Option.bind_some]
  acknowledge {guarded board} interrupt guards := by
    refine guards_afterChange ?_ guards.sound
    rw [guards.holds]
    rfl

end Guarded

namespace Console

variable (console : Console)

/-- One step of the processor, on the guarded board. -/
def checkedStep : Option (Outcome Nat) :=
  let (result, core) :=
    Cpu.Core.step { cpu := console.cpu, bus := Guarded.mk (some console.board) }
  core.bus.board?.map fun board =>
    { result, console := { console with cpu := core.cpu, board }, events := core.journal }

/-- A checked step that succeeds takes at least one machine cycle. -/
theorem four_le_of_checkedStep {console : Console} {outcome : Outcome Nat} {cycles : Nat}
    (stepped : console.checkedStep = some outcome) (ran : outcome.result = .ok cycles) :
    4 ≤ cycles := by
  obtain ⟨board, -, rfl⟩ := Option.map_eq_some_iff.mp stepped
  exact Cpu.Core.four_le_of_step (Prod.ext ran rfl)

/-- Step until a frame is complete or the cycles are used up. -/
def checkedRunFrame (budget : Nat) (console : Console) (elapsed : Nat)
    (events : Array Event) : Option (Outcome Unit) :=
  match _ : console.checkedStep with
  | none => none
  | some outcome =>
    let events := events ++ outcome.events
    match _ : outcome.result with
    | .error fault => some { result := .error fault, console := outcome.console, events }
    | .ok cycles =>
      let elapsed := elapsed + cycles
      let lcd := outcome.console.board.lcd
      if lcd.frameReady then
        some { result := .ok (), console := outcome.console.clearReady, events }
      else if budget ≤ elapsed ∧ lcd.enabled = false ∨ giveUp budget ≤ elapsed then
        some { result := .ok (), console := outcome.console, events }
      else checkedRunFrame budget outcome.console elapsed events
  termination_by giveUp budget - elapsed
  decreasing_by
    have := four_le_of_checkedStep ‹_› ‹_›
    omega

/-- Install a boot program, and switch the console off and on again. -/
def checkedInstallBootRom (image : Image) :
    Option (Except LoadError (List Event) × Console) :=
  if exact : image.size = 0x100 then do
    let console ← (console.setBootRom ⟨image, exact⟩).checkedReset
    pure (.ok [.bootRomLoaded], console)
  else pure (.error (.bootRomSize image.size), console)

/-- Insert a cartridge, and switch the console off and on again. -/
def checkedInsertCartridge (image : Image) :
    Option (Except LoadError (List Event) × Console) := do
  match ← Cartridge.checkedLoad image with
  | .error error => pure (.error error, console)
  | .ok (cartridge, events) => do
    let console ← (console.setCartridge cartridge).checkedReset
    pure (.ok events, console)

/-- Replace the start of the cartridge's RAM. -/
def checkedLoadRam (data : Array Byte) : Option Console := do
  let board ← console.board.checkedModifyCartridge (·.checkedLoadRam data)
  pure { console with board }

/-- Press or release a button. -/
def checkedSetButton (button : Button) (pressed : Bool) : Option Console := do
  let board ← console.board.checkedSetButton button pressed
  pure { console with board }

/-- The answer to an operation, and the console after it. -/
def checkedPerform (operation : Operation) : Option (Answer × Console) :=
  match operation with
  | .loadBootRom image => do
    let outcome ← console.checkedInstallBootRom image
    pure (afterLoad outcome)
  | .loadCartridge image => do
    let outcome ← console.checkedInsertCartridge image
    pure (afterLoad outcome)
  | .loadRam data => do
    let console ← console.checkedLoadRam data
    pure (.done, console)
  | .reset => do
    let console ← console.checkedReset
    pure (.done, console)
  | .step => do
    let outcome ← console.checkedStep
    pure (afterStep outcome)
  | .renderFrame => do
    let outcome ← checkedRunFrame console.budget console.clearReady 0 #[]
    pure (afterFrame outcome)
  | .setButton button pressed => do
    let console ← console.checkedSetButton button pressed
    pure (.done, console)

/-- The answers to a history, and the console after it. -/
def checkedPerformAll (console : Console) : List Operation → Option (List Answer × Console)
  | [] => pure ([], console)
  | operation :: operations => do
    let (answer, console) ← console.checkedPerform operation
    let (answers, console) ← console.checkedPerformAll operations
    pure (answer :: answers, console)

/-- The answers of a new console to a history, and the console after it. -/
def checkedHistory (config : Config) (history : List Operation) :
    Option (List Answer × Console) := do
  let console ← checkedNew config
  console.checkedPerformAll history

/-! ## Running -/

variable {console}

theorem checkedStep_eq (sound : console.board.lcd.Sound) :
    console.checkedStep = some console.step := by
  have start : Cpu.Core.Alike Guarded.Guards
      { cpu := console.cpu, bus := Guarded.mk (some console.board) }
      { cpu := console.cpu, bus := console.board } :=
    ⟨rfl, ⟨rfl, sound⟩, rfl⟩
  obtain ⟨result, cpu, guards, journal⟩ := Guarded.simulation.step_alike start
  simp only [checkedStep, guards.holds, Option.map_some, result, cpu, journal]
  rfl

theorem checkedRunFrame_eq (sound : console.board.lcd.Sound) (budget elapsed : Nat)
    (events : Array Event) :
    checkedRunFrame budget console elapsed events =
      some (runFrame budget console elapsed events) := by
  fun_induction checkedRunFrame budget console elapsed events with
  | case1 console elapsed events stepped =>
      rw [checkedStep_eq sound] at stepped
      exact nomatch stepped
  | case2 console elapsed events outcome stepped later fault failed =>
      cases (checkedStep_eq sound).symm.trans stepped
      rw [runFrame_of_fault failed]
  | case3 console elapsed events outcome stepped later cycles ran lcd ready =>
      cases (checkedStep_eq sound).symm.trans stepped
      rw [runFrame_of_ran ran, if_pos ready]
  | case4 console elapsed events outcome stepped later cycles ran now lcd unready spent =>
      cases (checkedStep_eq sound).symm.trans stepped
      rw [runFrame_of_ran ran, if_neg unready, if_pos spent]
  | case5 console elapsed events outcome stepped later cycles ran now lcd unready left ih =>
      cases (checkedStep_eq sound).symm.trans stepped
      rw [ih (sound_step sound), runFrame_of_ran ran, if_neg unready, if_neg left]

/-! ## Loading -/

theorem checkedInstallBootRom_eq (image : Image) :
    console.checkedInstallBootRom image = some (console.attempt (installBootRom image)) := by
  rw [checkedInstallBootRom, installBootRom]
  by_cases exact : image.size = 0x100
  · rw [dif_pos exact, dif_pos exact, checkedReset_eq]
    rfl
  · rw [dif_neg exact, dif_neg exact]
    rfl

theorem checkedInsertCartridge_eq (image : Image) :
    console.checkedInsertCartridge image =
      some (console.attempt (insertCartridge image)) := by
  rw [checkedInsertCartridge, insertCartridge, Cartridge.checkedLoad_eq, Option.bind_eq_bind,
    Option.bind_some]
  cases Cartridge.load image with
  | error error => rfl
  | ok loaded =>
      obtain ⟨cartridge, events⟩ := loaded
      simp only [checkedReset_eq]
      rfl

theorem checkedLoadRam_eq (data : Array Byte) :
    console.checkedLoadRam data = some (console.loadRam data) := by
  rw [checkedLoadRam, Board.checkedModifyCartridge_eq _ fun cartridge =>
    cartridge.checkedLoadRam_eq data]
  rfl

theorem checkedSetButton_eq (button : Button) (pressed : Bool) :
    console.checkedSetButton button pressed = some (console.setButton button pressed) := by
  rw [checkedSetButton, Board.checkedSetButton_eq]
  rfl

/-! ## Histories -/

/-- Whatever is asked next, no check fails. -/
theorem checkedPerform_eq (sound : console.board.lcd.Sound) (operation : Operation) :
    console.checkedPerform operation = some (console.perform operation) := by
  cases operation with
  | loadBootRom image =>
      rw [checkedPerform, checkedInstallBootRom_eq]
      rfl
  | loadCartridge image =>
      rw [checkedPerform, checkedInsertCartridge_eq]
      rfl
  | loadRam data =>
      rw [checkedPerform, checkedLoadRam_eq]
      rfl
  | reset =>
      rw [checkedPerform, checkedReset_eq]
      rfl
  | step =>
      rw [checkedPerform, checkedStep_eq sound]
      rfl
  | renderFrame =>
      rw [checkedPerform, checkedRunFrame_eq sound.clearReady]
      rfl
  | setButton button pressed =>
      rw [checkedPerform, checkedSetButton_eq]
      rfl

theorem checkedPerformAll_eq (sound : console.board.lcd.Sound) (history : List Operation) :
    console.checkedPerformAll history = some (console.performAll history) := by
  induction history generalizing console with
  | nil => rfl
  | cons operation operations ih =>
      simp only [checkedPerformAll, checkedPerform_eq sound, Option.bind_eq_bind,
        Option.bind_some, ih (sound_perform sound operation)]
      rfl

/-- A history is checked from the moment the console is made. -/
theorem checkedHistory_eq (config : Config) (history : List Operation) :
    checkedHistory config history = some ((new config).performAll history) := by
  rw [checkedHistory, checkedNew_eq, Option.bind_eq_bind, Option.bind_some]
  exact checkedPerformAll_eq (sound_after config []) history

/-- No check fails, in no history of no console and in no operation that comes next:
the checked console answers as the console does, and what the processor computes
fits into its numbers for all operands. On the way a dark controller rests at the
start of its schedule, a lit one is in the one mode that its line and its dot belong
to, and no line has more than ten sprites. -/
theorem no_check_fails (config : Config) (history : List Operation) :
    checkedHistory config history = some ((new config).performAll history) ∧
      (∀ operation, (after config history).checkedPerform operation =
        some ((after config history).perform operation)) ∧
      Cpu.Computes ∧
      let lcd := (after config history).board.lcd
      (lcd.enabled = false → lcd.line = 0 ∧ lcd.dot = 0 ∧ lcd.mode = .hblank) ∧
        (lcd.enabled = true → ∀ mode : Lcd.Mode,
          mode.Covers lcd.line lcd.dot ↔ mode = lcd.mode) ∧
        lcd.lineSprites.length ≤ Lcd.spritesPerLine := by
  have sound := sound_after config history
  refine ⟨checkedHistory_eq config history, checkedPerform_eq sound, Cpu.computes, ?_⟩
  refine ⟨sound.dark, ?_, sound.few⟩
  intro enabled mode
  constructor
  · intro covers
    exact Lcd.Mode.covers_unique (sound.lit enabled) covers
  · intro same
    rw [same]
    exact sound.lit enabled

end Console

end GameBoy
