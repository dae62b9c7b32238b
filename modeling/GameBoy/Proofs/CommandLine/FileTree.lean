import GameBoy.CommandLine.FileTree

/-!
# Writing to a file tree

Writing either fails or changes one file: the one that the path leads to holds the content
afterwards, and everything else is as it was. Paths lead through directories only, and a file
is never written over a directory, so that the same path leads to the same place afterwards
and reads the content back.
-/

namespace GameBoy.CommandLine

/-- What succeeds in two parts has succeeded in both. -/
theorem exists_of_bind_ok {ε α β : Type} {first : Except ε α} {next : α → Except ε β}
    {result : β} (ran : first >>= next = .ok result) :
    ∃ value, first = .ok value ∧ next value = .ok result := by
  cases first with
  | error error => exact nomatch ran
  | ok value => exact ⟨value, rfl, ran⟩

namespace FileTree

/-- The path of a text leads to a location, and asks for a file there. -/
inductive Leads (tree : FileTree) (text : String) : Location → Prop where
  | found {path : Path} (spelled : Path.ofText text = .ok path) {directory : Location}
      {name : String} (located : tree.locate path = .ok (directory, name))
      (asks : path.endsInSlash = false) (short : name.utf8ByteSize ≤ nameLimit) :
      Leads tree text (name :: directory)

/-- The tree after a content has been written by a path. -/
inductive Stored (tree : FileTree) (text : String) (content : Array Byte) : FileTree → Prop where
  /-- A file, new or in place of an old one, holds the content. Everything else is as it
  was. -/
  | file {later : FileTree} {location : Location} (leads : tree.Leads text location)
      (free : ∀ entry, tree.entryAt? location = some entry → ∃ old, entry = .file old)
      (here : later.entryAt? location = some (.file content))
      (reads : later.read text = .ok content)
      (elsewhere : ∀ other, other ≠ location → later.entryAt? other = tree.entryAt? other)
      (working : later.working = tree.working) : Stored tree text content later
  /-- A device has taken the content, which is not stored. -/
  | dropped {location : Location} (leads : tree.Leads text location) {device : Device}
      (there : tree.entryAt? location = some (.device device))
      (takes : device.write = .ok ()) : Stored tree text content tree

variable {tree later : FileTree} {text : String} {content : Array Byte} {location : Location}

theorem look_eq_ok_iff {directory : Location} {name : String} {found : Option Entry} :
    tree.look directory name = .ok found ↔
      name.utf8ByteSize ≤ nameLimit ∧ tree.entryAt? (name :: directory) = found := by
  simp only [look]
  split
  next long => simp [Nat.not_le.mpr long]
  next short => simp [Nat.le_of_not_lt short]

/-! ## The same path afterwards -/

/-- A file that takes no directory's place does not get in the way. -/
theorem enter_insert (kept : tree.entryAt? location ≠ some .directory) (entry : Entry)
    {directory next : Location} {name : String}
    (entered : tree.enter directory name = .ok next) :
    (tree.insert location entry).enter directory name = .ok next := by
  unfold enter at entered ⊢
  split
  next dot => rwa [if_pos dot] at entered
  next named =>
    rw [if_neg named] at entered
    split
    next dots => rwa [if_pos dots] at entered
    next named =>
      rw [if_neg named] at entered
      split at entered
      next => exact nomatch entered
      next => exact nomatch entered
      next looked =>
        obtain ⟨short, there⟩ := look_eq_ok_iff.mp looked
        have other : name :: directory ≠ location := fun same => kept (same ▸ there)
        have again := look_eq_ok_iff.mpr
          ⟨short, (tree.entryAt?_insert_of_ne entry other).trans there⟩
        rw [again]
        exact entered
      next => exact nomatch entered

theorem walk_insert (kept : tree.entryAt? location ≠ some .directory) (entry : Entry)
    {directory : Location} {names : List String} {place : Location × String}
    (walked : tree.walk directory names = .ok place) :
    (tree.insert location entry).walk directory names = .ok place := by
  fun_induction tree.walk directory names with
  | case1 | case2 | case4 => exact nomatch walked
  | case3 directory name named => simpa [walk, named] using walked
  | case5 directory name next rest inner entered ih =>
      rw [walk, enter_insert kept entry entered]
      exact ih walked

theorem read_insert (leads : tree.Leads text location)
    (kept : tree.entryAt? location ≠ some .directory) :
    (tree.insert location (.file content)).read text = .ok content := by
  cases leads with
  | @found path spelled directory name located asks short =>
      have again : (tree.insert (name :: directory) (.file content)).locate path =
          .ok (directory, name) :=
        walk_insert kept _ located
      have looked := look_eq_ok_iff.mpr
        ⟨short, tree.entryAt?_insert_self (name :: directory) (.file content)⟩
      rw [read, spelled]
      simp only [bind, Except.bind, again, looked, asks]
      rfl

/-! ## Writing -/

theorem stored_insert (leads : tree.Leads text location)
    (free : ∀ entry, tree.entryAt? location = some entry → ∃ old, entry = .file old) :
    tree.Stored text content (tree.insert location (.file content)) := by
  have kept : tree.entryAt? location ≠ some .directory := by
    intro there
    obtain ⟨old, same⟩ := free _ there
    exact nomatch same
  exact .file leads free (tree.entryAt?_insert_self _ _) (read_insert leads kept)
    (fun other different => tree.entryAt?_insert_of_ne _ different) rfl

/-- Writing that succeeds stores the content where the path leads to. -/
theorem stored_of_write (wrote : tree.write text content = .ok later) :
    tree.Stored text content later := by
  unfold write at wrote
  obtain ⟨path, spelled, wrote⟩ := exists_of_bind_ok wrote
  obtain ⟨⟨directory, name⟩, located, wrote⟩ := exists_of_bind_ok wrote
  simp only at wrote
  split at wrote
  next =>
    obtain ⟨_, thrown, -⟩ := exists_of_bind_ok wrote
    exact nomatch thrown
  next asks =>
    obtain ⟨found, looked, wrote⟩ := exists_of_bind_ok wrote
    obtain ⟨short, there⟩ := look_eq_ok_iff.mp looked
    have leads : tree.Leads text (name :: directory) :=
      .found spelled located (Bool.eq_false_iff.mpr asks) short
    cases found with
    | none =>
        cases wrote
        exact stored_insert leads (by simp [there])
    | some entry =>
        cases entry with
        | directory => exact nomatch wrote
        | file old =>
            cases wrote
            exact stored_insert leads (by simp [there])
        | device device =>
            obtain ⟨⟨⟩, takes, same⟩ := exists_of_bind_ok wrote
            cases same
            exact .dropped leads there takes

theorem run_write_of_ok (wrote : tree.write text content = .ok later) :
    StateT.run (FileAccess.write text content : StateM FileTree _) tree = (.ok (), later) := by
  simp only [FileAccess.write, StateT.run, wrote]

theorem run_write_of_error {error : FileError} (failed : tree.write text content = .error error) :
    StateT.run (FileAccess.write text content : StateM FileTree _) tree =
      (.error error, tree) := by
  simp only [FileAccess.write, StateT.run, failed]

end FileTree

end GameBoy.CommandLine
