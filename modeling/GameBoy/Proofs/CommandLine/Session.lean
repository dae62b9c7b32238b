import GameBoy.CommandLine.Session
import GameBoy.Proofs.CommandLine.FileTree
import GameBoy.Proofs.Console.PowerCycle
import GameBoy.Proofs.Picture.Graymap

/-!
# What a session does to the files

A session reads its images, plays its frames and writes the picture last. Whatever fails
before that leaves all files as they are, and so does writing when it fails. So a session
either leaves everything alone, or it changes one file, which then shows the frame that a new
console shows after the same loads and that number of frames.
-/

namespace GameBoy

/-- Whether an operation succeeded. -/
def Answer.succeeded : Answer → Bool
  | .done => true
  | .loaded result => result.isOk
  | .stepped result _ => result.isOk
  | .rendered result _ => result.isOk

namespace Console

/-- Some operations all succeed, and lead to another console. -/
def Reaches (start : Console) (operations : List Operation) (final : Console) : Prop :=
  (∀ answer ∈ (start.performAll operations).1, answer.succeeded = true) ∧
    (start.performAll operations).2 = final

variable {start middle final : Console}

theorem Reaches.refl (console : Console) : console.Reaches [] console :=
  ⟨List.forall_mem_nil _, rfl⟩

theorem Reaches.cons {operation : Operation} {operations : List Operation}
    (succeeds : (start.perform operation).1.succeeded = true)
    (rest : (start.perform operation).2.Reaches operations final) :
    start.Reaches (operation :: operations) final :=
  ⟨List.forall_mem_cons.mpr ⟨succeeds, rest.1⟩, rest.2⟩

theorem Reaches.append {earlier later : List Operation} (first : start.Reaches earlier middle)
    (second : middle.Reaches later final) : start.Reaches (earlier ++ later) final := by
  induction earlier generalizing start with
  | nil =>
      obtain ⟨-, rfl⟩ := first
      exact second
  | cons operation earlier ih =>
      obtain ⟨succeeds, arrives⟩ := first
      obtain ⟨here, rest⟩ := List.forall_mem_cons.mp succeeds
      exact .cons here (ih ⟨rest, arrives⟩)

/-- A load that is accepted succeeds. -/
theorem reaches_of_load {operation : Operation} {events : List Event}
    (accepted : start.perform operation = (.loaded (.ok events), final)) :
    start.Reaches [operation] final := by
  have arrived : (start.perform operation).2 = final := congrArg Prod.snd accepted
  have reaches : start.Reaches [operation] (start.perform operation).2 :=
    .cons (by rw [accepted]; rfl) (.refl _)
  rwa [arrived] at reaches

end Console

namespace CommandLine

/-! ## What a session asks for -/

/-- The boot program of a session, if its options name one. -/
inductive Booted (tree : FileTree) (options : Options) : List Operation → Prop where
  | without (unnamed : options.boot = none) : Booted tree options []
  | program {path : String} (named : options.boot = some path) {image : Image}
      (found : tree.read path = .ok image) : Booted tree options [.loadBootRom image]

/-- The images of a session, the boot program before the cartridge. -/
inductive Loaded (tree : FileTree) (options : Options) : List Operation → Prop where
  | cartridge {history : List Operation} (booted : Booted tree options history) {image : Image}
      (found : tree.read options.rom = .ok image) :
      Loaded tree options (history ++ [.loadCartridge image])

/-- Why a session fails: everything before has succeeded, on the files as they were. -/
inductive Failure (tree : FileTree) (options : Options) : SessionError → Prop where
  | bootUnread {path : String} (named : options.boot = some path) {error : FileError}
      (unread : tree.read path = .error error) : Failure tree options (.bootUnread path error)
  | bootRejected {path : String} (named : options.boot = some path) {image : Image}
      (found : tree.read path = .ok image) {error : LoadError}
      (rejected : (Console.new.perform (.loadBootRom image)).1 = .loaded (.error error)) :
      Failure tree options (.bootRejected path error)
  | romUnread {history : List Operation} (booted : Booted tree options history)
      {console : Console} (reaches : Console.new.Reaches history console) {error : FileError}
      (unread : tree.read options.rom = .error error) :
      Failure tree options (.romUnread options.rom error)
  | romRejected {history : List Operation} (booted : Booted tree options history)
      {console : Console} (reaches : Console.new.Reaches history console) {image : Image}
      (found : tree.read options.rom = .ok image) {error : LoadError}
      (rejected : (console.perform (.loadCartridge image)).1 = .loaded (.error error)) :
      Failure tree options (.romRejected options.rom error)
  | stopped {history : List Operation} (loaded : Loaded tree options history) {frame : Nat}
      (during : frame < options.frames) {console : Console}
      (reaches : Console.new.Reaches (history ++ List.replicate frame .renderFrame) console)
      {fault : Fault} (faulted : console.renderFrame.result = .error fault) :
      Failure tree options (.stopped frame fault)
  | unwritten {history : List Operation} (loaded : Loaded tree options history)
      {console : Console}
      (reaches : Console.new.Reaches
        (history ++ List.replicate options.frames .renderFrame) console)
      {content : Array Byte} (shows : Graymap.Shows content console.frame) {error : FileError}
      (unwritten : tree.write options.output content = .error error) :
      Failure tree options (.unwritten options.output error)

/-- How a session ends: its result, and the tree afterwards. -/
inductive Settled (tree : FileTree) (options : Options) :
    Except SessionError String → FileTree → Prop where
  /-- It has failed, and everything is as it was. -/
  | failed {error : SessionError} (failure : Failure tree options error) :
      Settled tree options (.error error) tree
  /-- It has stored a content that shows the frame of a new console, after the loads and the
  frames that the options ask for. -/
  | written {history : List Operation} (loaded : Loaded tree options history)
      {console : Console}
      (reaches : Console.new.Reaches
        (history ++ List.replicate options.frames .renderFrame) console)
      {content : Array Byte} (shows : Graymap.Shows content console.frame) {later : FileTree}
      (stored : tree.Stored options.output content later) :
      Settled tree options (.ok (report options)) later

/-! ## Parts of a session -/

/-- What is true of the result of an action and of the tree that it leaves, whatever was
noted before. -/
def Ends {α : Type} (tree : FileTree) (action : SessionT (StateM FileTree) α)
    (Post : Except SessionError α → FileTree → Prop) : Prop :=
  ∀ journal : Array Event,
    let ((result, _), later) := (action.run.run journal).run tree
    Post result later

/-- An action leaves the tree as it is, and returns or throws what it should. -/
def Keeps {α : Type} (tree : FileTree) (Returns : α → Prop) (Throws : SessionError → Prop) :
    Except SessionError α → FileTree → Prop
  | .ok value, later => later = tree ∧ Returns value
  | .error error, later => later = tree ∧ Throws error

section

variable {α β : Type} {tree : FileTree} {Throws : SessionError → Prop}

/-- An error ends a sequence, and a value goes on to its second part. -/
theorem Ends.bind {action : SessionT (StateM FileTree) α}
    {Middle : Except SessionError α → FileTree → Prop} (first : Ends tree action Middle)
    {next : α → SessionT (StateM FileTree) β} {Post : Except SessionError β → FileTree → Prop}
    (fails : ∀ error later, Middle (.error error) later → Post (.error error) later)
    (goes : ∀ value later, Middle (.ok value) later → Ends later (next value) Post) :
    Ends tree (action >>= next) Post := by
  intro journal
  have here := first journal
  simp only [ExceptT.run_bind, StateT.run_bind]
  generalize (action.run.run journal).run tree = outcome at here ⊢
  obtain ⟨⟨result, noted⟩, later⟩ := outcome
  cases result with
  | error error => exact fails error later here
  | ok value => exact goes value later here noted

/-- Behind an action that leaves the tree as it is, the tree is still the same. -/
theorem Ends.after_keeps {action : SessionT (StateM FileTree) α} {Returns : α → Prop}
    (first : Ends tree action (Keeps tree Returns Throws))
    {next : α → SessionT (StateM FileTree) β} {Post : Except SessionError β → FileTree → Prop}
    (fails : ∀ error, Throws error → Post (.error error) tree)
    (goes : ∀ value, Returns value → Ends tree (next value) Post) :
    Ends tree (action >>= next) Post := by
  refine first.bind ?_ ?_
  · rintro error later ⟨rfl, thrown⟩
    exact fails error thrown
  · rintro value later ⟨rfl, returned⟩
    exact goes value returned

theorem Ends.keeps_bind {action : SessionT (StateM FileTree) α} {Returns : α → Prop}
    (first : Ends tree action (Keeps tree Returns Throws))
    {next : α → SessionT (StateM FileTree) β} {Comes : β → Prop}
    (goes : ∀ value, Returns value → Ends tree (next value) (Keeps tree Comes Throws)) :
    Ends tree (action >>= next) (Keeps tree Comes Throws) :=
  first.after_keeps (fun _ thrown => ⟨rfl, thrown⟩) goes

theorem ends_return {value : α} {Returns : α → Prop} (returned : Returns value) :
    Ends tree (pure value) (Keeps tree Returns Throws) :=
  fun _ => ⟨rfl, returned⟩

theorem ends_throw {error : SessionError} {Returns : α → Prop} (thrown : Throws error) :
    Ends tree (throw error) (Keeps tree Returns Throws) :=
  fun _ => ⟨rfl, thrown⟩

theorem ends_note (events : List Event) :
    Ends tree (note events) (Keeps tree (fun _ => True) Throws) :=
  fun _ => ⟨rfl, trivial⟩

theorem ends_access {γ : Type} (access : StateM FileTree γ) :
    Ends tree (liftM access) fun result later =>
      result = .ok (access.run tree).1 ∧ later = (access.run tree).2 :=
  fun _ => ⟨rfl, rfl⟩

theorem ends_read (path : String) :
    Ends tree (liftM (FileAccess.read path : StateM FileTree _))
      (Keeps tree (· = tree.read path) Throws) :=
  fun _ => ⟨rfl, rfl⟩

end

variable {tree : FileTree} {options : Options} {history : List Operation} {console : Console}

/-- What the boot program of a session comes to. -/
theorem ends_loadBoot {path : String} (named : options.boot = some path) :
    Ends tree (loadBoot Console.new path)
      (Keeps tree
        (fun console => ∃ history, Booted tree options history ∧
          Console.new.Reaches history console)
        (Failure tree options)) := by
  unfold loadBoot
  refine (ends_read path).keeps_bind fun answer found => ?_
  cases answer with
  | error error => exact ends_throw (.bootUnread named found.symm)
  | ok image =>
      simp only
      cases result : Console.new.loadBootRom image with
      | error error =>
          exact ends_throw (.bootRejected named found.symm (Console.fst_afterLoad_of_reject result))
      | ok accepted =>
          have performed : Console.new.perform (.loadBootRom image) =
            (.loaded (.ok accepted.2), accepted.1) := Console.afterLoad_of_accept result
          refine (ends_note accepted.2).keeps_bind fun _ _ => ends_return ?_
          exact ⟨_, .program named found.symm, Console.reaches_of_load performed⟩

/-- What the cartridge of a session comes to. -/
theorem ends_loadRom (booted : Booted tree options history)
    (reaches : Console.new.Reaches history console) :
    Ends tree (loadRom console options.rom)
      (Keeps tree
        (fun next => ∃ history, Loaded tree options history ∧
          Console.new.Reaches history next)
        (Failure tree options)) := by
  unfold loadRom
  refine (ends_read options.rom).keeps_bind fun answer found => ?_
  cases answer with
  | error error => exact ends_throw (.romUnread booted reaches found.symm)
  | ok image =>
      simp only
      cases result : console.loadCartridge image with
      | error error =>
          have answered := Console.fst_afterLoad_of_reject result
          exact ends_throw (.romRejected booted reaches found.symm answered)
      | ok accepted =>
          have performed : console.perform (.loadCartridge image) =
            (.loaded (.ok accepted.2), accepted.1) := Console.afterLoad_of_accept result
          refine (ends_note accepted.2).keeps_bind fun _ _ => ?_
          refine (ends_note _).keeps_bind fun _ _ => ends_return ?_
          have arrives := reaches.append (Console.reaches_of_load performed)
          exact ⟨_, .cartridge booted found.symm, arrives⟩

/-- The frames of a session are played one after the other, up to one that fails: by induction
on the frames that are left. -/
theorem playFrames_reaches (console : Console) (played : Nat) (events : Array Event)
    (left : Nat) :
    match (playFrames console played events left).1 with
    | .ok final => console.Reaches (List.replicate left .renderFrame) final
    | .error (frame, fault) => ∃ before < left, frame = played + before ∧
        ∃ middle, console.Reaches (List.replicate before .renderFrame) middle ∧
          middle.renderFrame.result = .error fault := by
  induction left generalizing console played events with
  | zero => exact .refl console
  | succ left ih =>
      have performed : console.perform .renderFrame = Console.afterFrame console.renderFrame := rfl
      simp only [playFrames]
      cases result : console.renderFrame.result with
      | error fault => exact ⟨0, Nat.succ_pos left, rfl, console, .refl console, result⟩
      | ok =>
          have succeeds : (console.perform .renderFrame).1.succeeded = true := by
            rw [performed, Console.afterFrame, result]
            rfl
          have rest := ih console.renderFrame.console (played + 1)
            (events ++ console.renderFrame.events)
          simp only
          split at rest
          next final _ => exact .cons succeeds rest
          next frame fault _ =>
            obtain ⟨before, during, rfl, middle, reaches, faulted⟩ := rest
            refine ⟨before + 1, Nat.succ_lt_succ during, by omega, middle, ?_, faulted⟩
            exact .cons succeeds reaches

theorem ends_play (loaded : Loaded tree options history)
    (reaches : Console.new.Reaches history console) :
    Ends tree (play console options.frames)
      (Keeps tree
        (fun final => Console.new.Reaches
          (history ++ List.replicate options.frames .renderFrame) final)
        (Failure tree options)) := by
  have played := playFrames_reaches console 0 #[] options.frames
  unfold play
  generalize playFrames console 0 #[] options.frames = outcome at played ⊢
  obtain ⟨result, events⟩ := outcome
  refine (ends_note events.toList).keeps_bind fun _ _ => ?_
  cases result with
  | error reason =>
      obtain ⟨frame, fault⟩ := reason
      obtain ⟨before, during, rfl, middle, arrives, faulted⟩ := played
      rw [Nat.zero_add]
      exact ends_throw (.stopped loaded during (reaches.append arrives) faulted)
  | ok final => exact ends_return (reaches.append played)

/-- What the picture of a session comes to. -/
theorem ends_writePicture (loaded : Loaded tree options history)
    (reaches : Console.new.Reaches
      (history ++ List.replicate options.frames .renderFrame) console) :
    Ends tree (writePicture console options.output) fun result later =>
      Settled tree options (result.map fun _ => report options) later := by
  have shows := Graymap.shows_encode console.frame
  unfold writePicture
  refine (ends_access _).bind ?_ ?_
  · rintro error later ⟨returned, -⟩
    exact nomatch returned
  · rintro answer later ⟨returned, rfl⟩
    cases wrote : tree.write options.output (Graymap.encode console.frame) with
    | error error =>
        rw [FileTree.run_write_of_error wrote] at returned ⊢
        cases returned
        exact fun _ => .failed (.unwritten loaded reaches shows wrote)
    | ok next =>
        rw [FileTree.run_write_of_ok wrote] at returned ⊢
        cases returned
        exact fun _ => .written loaded reaches shows (FileTree.stored_of_write wrote)

/-! ## Sessions -/

/-- A session behind its boot program. -/
theorem ends_booted (booted : Booted tree options history)
    (reaches : Console.new.Reaches history console) :
    Ends tree (do
      let console ← loadRom console options.rom
      let console ← play console options.frames
      writePicture console options.output
      return report options) (Settled tree options) := by
  refine (ends_loadRom booted reaches).after_keeps (fun _ failure => .failed failure) ?_
  rintro inserted ⟨loads, loaded, arrives⟩
  refine (ends_play loaded arrives).after_keeps (fun _ failure => .failed failure) ?_
  intro final plays
  refine (ends_writePicture loaded plays).bind (fun _ _ failed => failed) ?_
  exact fun _ later written _ => written

/-- A session with or without a boot program. -/
theorem ends_run (tree : FileTree) (options : Options) :
    Ends tree (run options) (Settled tree options) := by
  unfold run
  -- Both branches go on behind the boot program in the same way.
  cases named : options.boot with
  | none =>
      have fresh : Ends tree (pure Console.new)
          (Keeps tree (· = Console.new) (Failure tree options)) :=
        ends_return rfl
      refine fresh.after_keeps (fun _ failure => .failed failure) ?_
      rintro console rfl
      exact ends_booted (.without named) (.refl _)
  | some path =>
      refine (ends_loadBoot named).after_keeps (fun _ failure => .failed failure) ?_
      rintro console ⟨history, booted, reaches⟩
      exact ends_booted booted reaches

/-- What a session comes to: its result, and the tree afterwards. -/
def FileTree.session (tree : FileTree) (options : Options) :
    Except SessionError String × FileTree :=
  let ((result, _), later) :=
    ((run options : SessionT (StateM FileTree) String).run.run #[]).run tree
  (result, later)

/-- A session writes exactly the right file, or it touches nothing. On every file tree and for
all options it ends in one of two ways. Either it fails, because an image was not read or was
rejected, a frame met an undefined opcode, or the picture was not written, and the tree is the
one that it found. Or it succeeds: its images were read from the tree as it found it, a new
console with the default options loaded them, the boot program first, and rendered as many
frames as asked for, all of them successfully; and the file to which the output path leads
holds a head of 15 bytes and 23040 gray values from which the console's frame is read back.
Nothing else has changed, and nothing at all if the path leads to a device. -/
theorem session_settled (tree : FileTree) (options : Options) :
    let (result, later) := tree.session options
    Settled tree options result later :=
  ends_run tree options #[]

end CommandLine

end GameBoy
