import GameBoy.Board
import GameBoy.Cpu.Step
import GameBoy.Memory.Noise

/-!
# The console

A console is a processor on a board, with two options that are fixed when it is
made. Images are loaded into it, which switches it off and on again; then it is
stepped, or run until a frame is complete. An operation that can report events
returns them beside the console.
-/

namespace GameBoy

/-- Clock cycles of one whole frame. -/
def frameCycles : UInt32 := 70224

/-- Options of a console. -/
structure Config where
  ramFill : Memory.Fill := .noise
  /-- Cycles that one frame may take while the screen is off. -/
  frameBudget : UInt32 := frameCycles
  deriving DecidableEq, Repr

/-- A processor on a board. -/
structure Console where
  config : Config
  cpu : Cpu.State
  board : Board

namespace Board

/-- The sound registers that a boot program sets, by their place, and what it leaves in them. -/
def bootSound : List (Fin 0x30 × Byte) :=
  [(0x00, 0x80), (0x01, 0xBF), (0x02, 0xF3), (0x03, 0xFF), (0x04, 0xBF), (0x06, 0x3F),
    (0x07, 0x00), (0x08, 0xFF), (0x09, 0xBF), (0x0A, 0x7F), (0x0B, 0xFF), (0x0C, 0x9F),
    (0x0D, 0xFF), (0x0E, 0xBF), (0x10, 0xFF), (0x11, 0x00), (0x12, 0x00), (0x13, 0xBF),
    (0x14, 0x77), (0x15, 0xF3), (0x16, 0xF1)]

/-- Start every device afresh and fill the memories again. What is inserted stays as it is,
and so does the mapping of the boot program. -/
def restart (board : Board) (fill : Memory.Fill) : Board :=
  let (workRam, highRam) := fill.refill board.workRam board.highRam
  { board with
    timer := {}
    lcd := {}
    interrupts := {}
    joypad := {}
    serialData := 0
    serialControl := 0
    audio := Vector.replicate Memory.audioSize 0
    transferPage := 0xFF
    workRam
    highRam }

/-- Restart at power-on. A boot program covers the cartridge. -/
def enterBoot (board : Board) (fill : Memory.Fill) : Board :=
  let board := board.restart fill
  { board with bootMapped := board.bootRom.isSome }

/-- Restart where a boot program would have handed over. A vertical blank is still
requested. -/
def skipBoot (board : Board) (fill : Memory.Fill) : Board :=
  let board := board.restart fill
  { board with
    bootMapped := false
    timer := .afterBoot
    lcd := board.lcd.handOver
    interrupts := (board.interrupts.writeRequested 0x01).writeEnabled 0x00
    serialControl := serialUnusedBits
    audio := bootSound.foldl (fun audio (place, value) => Memory.put audio place value)
      board.audio }

end Board

namespace Console

/-- Switch a console off and on again. With a boot program the processor starts in it;
without one it starts in the cartridge, where a boot program would have handed over. The
cartridge stays as it is. -/
def reset (console : Console) : Console :=
  let fill := console.config.ramFill
  if console.board.bootRom.isSome then
    { console with cpu := .powerOn, board := console.board.enterBoot fill }
  else { console with cpu := .afterBoot, board := console.board.skipBoot fill }

/-- A console without images. -/
def new (config : Config := {}) : Console := reset { config, cpu := .powerOn, board := {} }

/-- Put a boot program into the console, which goes on as it is. -/
def setBootRom (console : Console) (program : BootRom) : Console :=
  { console with board := { console.board with bootRom := some program } }

/-- Put a cartridge into the console, which goes on as it is. -/
def setCartridge (console : Console) (cartridge : Cartridge) : Console :=
  { console with board := { console.board with cartridge := some cartridge } }

/-- A change to a console that may be rejected. What was changed before that stays
changed. -/
abbrev LoadM := ExceptT LoadError (StateM Console)

/-- Install a boot program, and switch the console off and on again. -/
def installBootRom (image : Image) : LoadM (List Event) := do
  if exact : image.size = 0x100 then
    modify (·.setBootRom ⟨image, exact⟩)
    modify reset
    return [.bootRomLoaded]
  else throw (.bootRomSize image.size)

/-- Insert a cartridge, and switch the console off and on again. -/
def insertCartridge (image : Image) : LoadM (List Event) := do
  match Cartridge.load image with
  | .error error => throw error
  | .ok (cartridge, events) =>
    modify (·.setCartridge cartridge)
    modify reset
    return events

/-- What a load comes to, and the console that it leaves behind. -/
def attempt (console : Console) (load : LoadM (List Event)) :
    Except LoadError (List Event) × Console :=
  load.run.run console

/-- The console and the events after a load, if it is accepted. -/
def accept (console : Console) (load : LoadM (List Event)) :
    Except LoadError (Console × List Event) :=
  let (result, console) := console.attempt load
  result.map fun events => (console, events)

/-- The console with a boot program, switched on. -/
def loadBootRom (console : Console) (image : Image) :
    Except LoadError (Console × List Event) :=
  console.accept (installBootRom image)

/-- The console with a cartridge, switched on. -/
def loadCartridge (console : Console) (image : Image) :
    Except LoadError (Console × List Event) :=
  console.accept (insertCartridge image)

/-- Replace the start of the cartridge's RAM. -/
def loadRam (console : Console) (data : Array Byte) : Console :=
  { console with board := console.board.modifyCartridge (·.loadRam data) }

/-- The RAM of the cartridge. -/
def ram? (console : Console) : Option (Array Byte) := console.board.cartridge.map (·.ram)

/-- The header of the cartridge. -/
def header? (console : Console) : Option Cartridge.Header :=
  console.board.cartridge.map (·.header)

/-- Read any address. -/
def peek (console : Console) (address : Word) : Byte := console.board.read address

/-- The last completed frame. -/
def frame (console : Console) : Frame := console.board.lcd.shown

/-- Press or release a button. -/
def setButton (console : Console) (button : Button) (pressed : Bool) : Console :=
  { console with board := console.board.setButton button pressed }

/-- What came of letting the console run: a result or a fault, the console
afterwards, and the events on the way. -/
structure Outcome (α : Type) where
  result : Except Fault α
  console : Console
  events : Array Event

/-- One step of the processor; the result is the number of clock cycles. -/
def step (console : Console) : Outcome Nat :=
  let (result, core) := Cpu.Core.step { cpu := console.cpu, bus := console.board }
  { result
    console := { console with cpu := core.cpu, board := core.bus }
    events := core.journal }

/-- A step that succeeds takes at least one machine cycle. -/
theorem four_le_of_step {console : Console} {cycles : Nat}
    (ran : console.step.result = .ok cycles) : 4 ≤ cycles :=
  Cpu.Core.four_le_of_step (Prod.ext ran rfl)

/-- The greatest number of cycles that are counted. -/
def countLimit : Nat := 0xFFFFFFFF

/-- Cycles that one frame may take while the screen is off. -/
def budget (console : Console) : Nat := console.config.frameBudget.toNat

/-- Cycles after which a frame is given up, whether the screen is on or not: twice
the budget, as far as cycles are counted. -/
def giveUp (budget : Nat) : Nat := min (2 * budget) countLimit

/-- The console after a frame that was completed has been noticed. -/
def clearReady (console : Console) : Console :=
  { console with board := { console.board with lcd := console.board.lcd.clearReady } }

/-- Step until a frame is complete or the cycles are used up. -/
def runFrame (budget : Nat) (console : Console) (elapsed : Nat) (events : Array Event) :
    Outcome Unit :=
  let outcome := console.step
  let events := events ++ outcome.events
  match _ : outcome.result with
  | .error fault => { result := .error fault, console := outcome.console, events }
  | .ok cycles =>
    let elapsed := elapsed + cycles
    let lcd := outcome.console.board.lcd
    if lcd.frameReady then { result := .ok (), console := outcome.console.clearReady, events }
    else if budget ≤ elapsed ∧ lcd.enabled = false ∨ giveUp budget ≤ elapsed then
      { result := .ok (), console := outcome.console, events }
    else runFrame budget outcome.console elapsed events
  termination_by giveUp budget - elapsed
  decreasing_by
    have := four_le_of_step ‹_›
    omega

/-- Run until the frame under way is complete and shown. While the screen is off
none can be completed, and the last one stays when the budget is spent. -/
def renderFrame (console : Console) : Outcome Unit :=
  runFrame console.budget console.clearReady 0 #[]

end Console

end GameBoy
