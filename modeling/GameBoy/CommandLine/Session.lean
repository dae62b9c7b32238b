import GameBoy.CommandLine.Files
import GameBoy.CommandLine.Options
import GameBoy.Console
import GameBoy.Picture.Graymap

/-!
# Sessions

A session loads the images that its options name, plays the chosen number of
frames and writes the last of them as a gray map. The first thing that fails ends
it, before anything has been written.
-/

namespace GameBoy.CommandLine

/-- Why a session ended early. -/
inductive SessionError where
  | bootUnread (path : String) (error : FileError)
  | bootRejected (path : String) (error : LoadError)
  | romUnread (path : String) (error : FileError)
  | romRejected (path : String) (error : LoadError)
  | stopped (frame : Nat) (fault : Fault)
  | unwritten (path : String) (error : FileError)
  deriving DecidableEq, Repr

/-- The reason in words. -/
def SessionError.message : SessionError → String
  | .bootUnread path error => s!"failed to read boot ROM {Text.quote path}: {error.message}"
  | .bootRejected path error =>
    s!"failed to load boot ROM {Text.quote path}: {error.message}"
  | .romUnread path error => s!"failed to read ROM {Text.quote path}: {error.message}"
  | .romRejected path error => s!"failed to load ROM {Text.quote path}: {error.message}"
  | .stopped frame fault => s!"emulation stopped in frame {frame}: {fault.message}"
  | .unwritten path error => s!"failed to write {Text.quote path}: {error.message}"

/-- Play a number of frames behind those that were played before; a fault comes
with the number of its frame. -/
def playFrames (console : Console) (played : Nat) (events : Array Event) :
    (left : Nat) → Except (Nat × Fault) Console × Array Event
  | 0 => (.ok console, events)
  | left + 1 =>
    let outcome := console.renderFrame
    let events := events ++ outcome.events
    match outcome.result with
    | .error fault => (.error (played, fault), events)
    | .ok () => playFrames outcome.console (played + 1) events left

/-- What a session prints when it has written its picture. -/
def report (options : Options) : String :=
  let size := s!"{screenWidth}x{screenHeight}"
  s!"Wrote {size} frame after {options.frames} frames to {Text.quote options.output}\n"

/-- Events gather while the session runs, and stay when it fails. -/
abbrev SessionT (m : Type → Type) := ExceptT SessionError (StateT (Array Event) m)

section

variable {m : Type → Type} [Monad m] [FileAccess m]

/-- Add events to the session's journal. -/
def note (events : List Event) : SessionT m Unit :=
  modify fun (journal : Array Event) => journal ++ events

/-- Load the boot program of a path. -/
def loadBoot (console : Console) (path : String) : SessionT m Console := do
  match ← (FileAccess.read path : m _) with
  | .error error => throw (.bootUnread path error)
  | .ok image =>
    match console.loadBootRom image with
    | .error error => throw (.bootRejected path error)
    | .ok (console, events) => do
      note events
      return console

/-- Load the cartridge of a path. -/
def loadRom (console : Console) (path : String) : SessionT m Console := do
  match ← (FileAccess.read path : m _) with
  | .error error => throw (.romUnread path error)
  | .ok image =>
    match console.loadCartridge image with
    | .error error => throw (.romRejected path error)
    | .ok (console, events) => do
      note events
      note (console.header?.toList.map .running)
      return console

/-- Play the frames of a session. -/
def play (console : Console) (frames : Nat) : SessionT m Console := do
  let (result, events) := playFrames console 0 #[] frames
  note events.toList
  match result with
  | .error (frame, fault) => throw (.stopped frame fault)
  | .ok console => return console

/-- Write the picture of a session. -/
def writePicture (console : Console) (path : String) : SessionT m Unit := do
  match ← (FileAccess.write path (Graymap.encode console.frame) : m _) with
  | .error error => throw (.unwritten path error)
  | .ok () => return ()

/-- Run a session; the result is what it prints. -/
def run (options : Options) : SessionT m String := do
  let console := Console.new
  let console ← match options.boot with
    | some path => loadBoot console path
    | none => pure console
  let console ← loadRom console options.rom
  let console ← play console options.frames
  writePicture console options.output
  return report options

end

end GameBoy.CommandLine
