import GameBoy.CommandLine.Files

/-!
# File trees

A file tree says what is at each location, and a path is walked through it from the
root or from the working directory. All names of a path but the last must lead
through directories. Only writing changes the tree, and only at the location that
its path leads to; writing to a device changes nothing.
-/

namespace GameBoy.CommandLine

/-- Where something is: its name and the names of the directories around it,
innermost first. The root is the empty location. -/
abbrev Location := List String

/-- A file behind which nothing is stored. -/
inductive Device where
  | null
  | endless
  | full
  deriving DecidableEq, Repr

namespace Device

/-- Read all that a device has. Only the null device comes to an end, at once. -/
def read : Device → Except FileError (Array Byte)
  | .null => .ok #[]
  | .endless | .full => .error .outOfMemory

/-- Write to a device, which drops what it takes. The full device takes nothing. -/
def write : Device → Except FileError Unit
  | .null | .endless => .ok ()
  | .full => .error .noSpace

end Device

/-- What is at a location. -/
inductive Entry where
  | directory
  | file (content : Array Byte)
  | device (device : Device)
  deriving DecidableEq, Repr

/-- A path, taken apart at its slashes. Slashes in a row count as one. -/
structure Path where
  fromRoot : Bool
  names : List String
  endsInSlash : Bool
  deriving DecidableEq, Repr

namespace Path

/-- Number of bytes from which on a path is too long. -/
def sizeLimit : Nat := 4096

/-- The path that a text spells. A zero character in it is reported first, then an
empty text, then one that is too long. -/
def ofText (text : String) : Except FileError Path :=
  let chars := text.toList
  if chars.contains '\x00' then .error .zeroInPath
  else if text.isEmpty then .error .notFound
  else if sizeLimit ≤ text.utf8ByteSize then .error .nameTooLong
  else
    let runs := chars.splitBy fun left right => (left == '/') == (right == '/')
    .ok { fromRoot := chars.head? == some '/'
          names := (runs.filter fun run => !run.contains '/').map String.ofList
          endsInSlash := chars.getLast? == some '/' }

end Path

/-- The entries of a machine by their locations, and the working directory. -/
structure FileTree where
  working : Location
  entryAt? : Location → Option Entry

namespace FileTree

/-- Greatest number of bytes in the name of an entry. -/
def nameLimit : Nat := 255

/-- The directories at the root of every machine. -/
def rootDirectories : List String :=
  ["bin", "boot", "dev", "etc", "home", "lib", "media", "mnt", "opt", "proc", "root",
    "run", "sbin", "srv", "sys", "tmp", "usr", "var"]

/-- The devices of every machine, by their names in the directory of devices. -/
def devices : List (String × Device) :=
  [("null", .null), ("zero", .endless), ("random", .endless), ("urandom", .endless),
    ("full", .full)]

/-- What is at a location of a machine on which nothing has been stored. -/
def bareAt? : Location → Option Entry
  | [] => some .directory
  | [name] => if rootDirectories.contains name then some .directory else none
  | [name, "dev"] => (devices.lookup name).map .device
  | _ => none

/-- The tree of a machine on which nothing has been stored, but for the working
directory and the directories around it. -/
def bare (working : Location) : FileTree :=
  { working
    entryAt? := fun location =>
      if location.isSuffixOf working then some .directory else bareAt? location }

/-- The tree with another entry at one location. -/
def insert (tree : FileTree) (location : Location) (entry : Entry) : FileTree :=
  { tree with
    entryAt? := fun other => if other = location then some entry else tree.entryAt? other }

@[simp] theorem entryAt?_insert_self (tree : FileTree) (location : Location)
    (entry : Entry) : (tree.insert location entry).entryAt? location = some entry := by
  simp [insert]

theorem entryAt?_insert_of_ne (tree : FileTree) {location other : Location}
    (entry : Entry) (different : other ≠ location) :
    (tree.insert location entry).entryAt? other = tree.entryAt? other := by
  simp [insert, different]

/-- Look for a name in a directory. A name beyond the limit is not looked for. -/
def look (tree : FileTree) (directory : Location) (name : String) :
    Except FileError (Option Entry) :=
  if nameLimit < name.utf8ByteSize then .error .nameTooLong
  else .ok (tree.entryAt? (name :: directory))

/-- Move from a directory to the one that a name leads to. A dot stays, and two
dots lead to the directory around it, from the root to the root. -/
def enter (tree : FileTree) (directory : Location) (name : String) :
    Except FileError Location :=
  if name = "." then .ok directory
  else if name = ".." then .ok directory.tail
  else
    match tree.look directory name with
    | .error error => .error error
    | .ok none => .error .notFound
    | .ok (some .directory) => .ok (name :: directory)
    | .ok (some _) => .error .notDirectory

/-- Walk along names: the directory that all but the last lead to, and the last
one. Dots at the end, and no names at all, lead to a directory and to no file. -/
def walk (tree : FileTree) (directory : Location) :
    List String → Except FileError (Location × String)
  | [] => .error .isDirectory
  | [name] =>
    if name = "." || name = ".." then .error .isDirectory else .ok (directory, name)
  | name :: next :: rest =>
    match tree.enter directory name with
    | .error error => .error error
    | .ok directory => tree.walk directory (next :: rest)

/-- The directory in which a path looks for its last name, and that name. -/
def locate (tree : FileTree) (path : Path) : Except FileError (Location × String) :=
  tree.walk (if path.fromRoot then [] else tree.working) path.names

/-- Read a file. A path that ends in a slash asks for a directory. -/
def read (tree : FileTree) (text : String) : Except FileError (Array Byte) := do
  let path ← Path.ofText text
  let (directory, name) ← tree.locate path
  match ← tree.look directory name with
  | none => throw .notFound
  | some .directory => throw .isDirectory
  | some (.file content) => if path.endsInSlash then throw .notDirectory else return content
  | some (.device device) => if path.endsInSlash then throw .notDirectory else device.read

/-- Write a file, new or in place of an old one. A path that ends in a slash asks
for a directory, whether or not there is one. -/
def write (tree : FileTree) (text : String) (content : Array Byte) :
    Except FileError FileTree := do
  let path ← Path.ofText text
  let (directory, name) ← tree.locate path
  if path.endsInSlash then throw .isDirectory
  match ← tree.look directory name with
  | some .directory => throw .isDirectory
  | some (.device device) =>
    device.write
    return tree
  | none | some (.file _) => return tree.insert (name :: directory) (.file content)

instance : FileAccess (StateM FileTree) where
  read path := fun tree => (tree.read path, tree)
  write path content := fun tree =>
    match tree.write path content with
    | .error error => (.error error, tree)
    | .ok next => (.ok (), next)

end FileTree

end GameBoy.CommandLine
