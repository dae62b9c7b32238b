import GameBoy.Text.Count
import GameBoy.Text.Quote

/-!
# Command-line options

An argument list names one cartridge image and may choose a boot program, a number
of frames and an output file. Each option takes the argument behind it, whatever
that is, and the last occurrence of an option wins.
-/

namespace GameBoy.CommandLine

/-- How the program is called. -/
def usage : String :=
  "Usage: pocketdmg <rom_path> [--boot <boot_rom>] [--frames <n>] [--out <frame.pgm>]"

/-- What the program is asked to do. -/
structure Options where
  rom : String
  boot : Option String := none
  frames : Nat := 60
  output : String := "frame.pgm"
  deriving DecidableEq, Repr

/-- Greatest number of frames. -/
def frameLimit : Nat := 0xFFFFFFFF

/-- Why an argument list was rejected. -/
inductive UsageError where
  | missingValue (option : String)
  | invalidFrames (value : String) (reason : Text.CountError)
  | unknownOption (argument : String)
  | unexpectedArgument (argument : String)
  | missingRom
  deriving DecidableEq, Repr

/-- The reason in words. -/
def UsageError.message : UsageError → String
  | .missingValue option => s!"{Text.quote option} expects a value\n{usage}"
  | .invalidFrames value reason =>
    s!"invalid frame count {Text.quote value}: {reason.message}"
  | .unknownOption argument => s!"unknown option {Text.quote argument}\n{usage}"
  | .unexpectedArgument argument => s!"unexpected argument {Text.quote argument}\n{usage}"
  | .missingRom => s!"no ROM path provided\n{usage}"

/-- An option that takes a value. -/
inductive OptionName where
  | boot
  | frames
  | output
  deriving DecidableEq, Repr

/-- How an option is written. -/
def OptionName.text : OptionName → String
  | .boot => "--boot"
  | .frames => "--frames"
  | .output => "--out"

/-- The option that an argument writes. -/
def OptionName.ofText? (argument : String) : Option OptionName :=
  [OptionName.boot, .frames, .output].find? fun option => option.text == argument

/-- What has been read of an argument list. -/
structure Draft where
  rom : Option String := none
  boot : Option String := none
  frames : Option Nat := none
  output : Option String := none
  deriving DecidableEq, Repr

namespace Draft

/-- Give an option a value. -/
def assign (draft : Draft) (option : OptionName) (value : String) :
    Except UsageError Draft :=
  match option with
  | .boot => .ok { draft with boot := some value }
  | .frames =>
    match Text.readCount frameLimit value.toList with
    | .ok frames => .ok { draft with frames := some frames }
    | .error reason => .error (.invalidFrames value reason)
  | .output => .ok { draft with output := some value }

/-- Take an argument that no option claims: the cartridge image, once. -/
def place (draft : Draft) (argument : String) : Except UsageError Draft :=
  if argument.toList.take 2 = ['-', '-'] then .error (.unknownOption argument)
  else
    match draft.rom with
    | none => .ok { draft with rom := some argument }
    | some _ => .error (.unexpectedArgument argument)

/-- The options, with what was left out at its default. -/
def finish (draft : Draft) : Except UsageError Options :=
  match draft.rom with
  | none => .error .missingRom
  | some rom =>
    let given : Options := { rom, boot := draft.boot }
    .ok { given with
      frames := draft.frames.getD given.frames
      output := draft.output.getD given.output }

/-- Read the rest of an argument list. -/
def read (draft : Draft) : List String → Except UsageError Options
  | [] => draft.finish
  | [argument] =>
    match OptionName.ofText? argument with
    | some _ => .error (.missingValue argument)
    | none => draft.place argument >>= finish
  | argument :: value :: rest =>
    match OptionName.ofText? argument with
    | some option =>
      match draft.assign option value with
      | .ok draft => draft.read rest
      | .error error => .error error
    | none =>
      match draft.place argument with
      | .ok draft => draft.read (value :: rest)
      | .error error => .error error

end Draft

/-- The options that an argument list spells. -/
def Options.parse (arguments : List String) : Except UsageError Options :=
  Draft.read {} arguments

end GameBoy.CommandLine
