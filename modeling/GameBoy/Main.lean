import GameBoy.CommandLine.Session

/-!
# The program

Runs one session on the files of the machine. Errors go to the error stream, and
so do the events that are errors themselves.
-/

namespace GameBoy.CommandLine

/-- The reason behind a system's error number, or its description with the number.
Some operations hand the number out negated. -/
def FileError.ofNumber (number : UInt32) (description : String) : FileError :=
  match min number (-number) with
  | 2 => .notFound
  | 20 => .notDirectory
  | 21 => .isDirectory
  | 28 => .noSpace
  | 36 => .nameTooLong
  | number => .other s!"{description} (os error {number})"

/-- Why an input or output operation failed. -/
def FileError.ofSystem (error : IO.Error) : FileError :=
  match error with
  | .noFileOrDirectory _ number description
  | .invalidArgument _ number description
  | .permissionDenied _ number description
  | .resourceExhausted _ number description
  | .inappropriateType _ number description
  | .noSuchThing _ number description
  | .otherError number description => .ofNumber number description
  | _ => .other (toString error)

instance : FileAccess IO where
  read path := do
    try
      return .ok (← IO.FS.readBinFile path).data
    catch error => return .error (.ofSystem error)
  write path content := do
    try
      IO.FS.writeBinFile path ⟨content⟩
      return .ok ()
    catch error => return .error (.ofSystem error)

end GameBoy.CommandLine

open GameBoy CommandLine in
/-- Read the arguments and run the session that they ask for. -/
def main (arguments : List String) : IO UInt32 := do
  match Options.parse arguments with
  | .error error =>
    IO.eprintln s!"Error: {error.message}"
    return 1
  | .ok options =>
    let (result, events) ← ((run options : SessionT IO String).run).run #[]
    for event in events do
      if event.reaches .error then IO.eprintln event.line
    match result with
    | .error error =>
      IO.eprintln s!"Error: {error.message}"
      return 1
    | .ok text =>
      IO.print text
      return 0
