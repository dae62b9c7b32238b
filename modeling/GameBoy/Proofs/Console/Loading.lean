import GameBoy.Proofs.Cartridge.Loading
import GameBoy.Proofs.Console.Inserted

/-!
# Loading images

A load is decided by the length of the image alone, before anything is changed: a
rejected image leaves the console as it was. An accepted image switches the console
off and on in place, so that of its past only the options and what is inserted are
left.
-/

namespace GameBoy.Console

variable {console : Console} {image : Image} {error : LoadError} {later : Console}

/-- A boot program is rejected exactly for its size, and then nothing has happened to the
console. -/
theorem attempt_installBootRom_eq_error_iff :
    console.attempt (installBootRom image) = (.error error, later) ↔
      image.size ≠ 0x100 ∧ error = .bootRomSize image.size ∧ later = console := by
  by_cases exact : image.size = 0x100
  · rw [attempt_installBootRom_of_exact exact]
    simp [exact]
  · rw [attempt_installBootRom_of_wrong exact]
    simp [exact, eq_comm]

/-- A cartridge is rejected exactly where its image is, and then nothing has happened to the
console. -/
theorem attempt_insertCartridge_eq_error_iff :
    console.attempt (insertCartridge image) = (.error error, later) ↔
      Cartridge.load image = .error error ∧ later = console := by
  cases loaded : Cartridge.load image with
  | error reason =>
      rw [attempt_insertCartridge_of_error loaded]
      simp [eq_comm]
  | ok result =>
      rw [attempt_insertCartridge_of_ok loaded]
      simp

/-- Whatever is rejected changes nothing. -/
theorem perform_of_rejected {operation : Operation}
    (rejected : (console.perform operation).1 = .loaded (.error error)) :
    (console.perform operation).2 = console := by
  cases operation with
  | loadBootRom image =>
      have reason : (console.attempt (installBootRom image)).1 = .error error :=
        Answer.loaded.inj rejected
      exact (attempt_installBootRom_eq_error_iff.mp (Prod.ext reason rfl)).2.2
  | loadCartridge image =>
      have reason : (console.attempt (insertCartridge image)).1 = .error error :=
        Answer.loaded.inj rejected
      exact (attempt_insertCartridge_eq_error_iff.mp (Prod.ext reason rfl)).2
  | loadRam | reset | step | renderFrame | setButton => exact nomatch rejected

/-- Consoles with the same options and the same boot program are the same after the same
accepted cartridge. -/
theorem attempt_insertCartridge_congr {other : Console} (sameConfig : other.config = console.config)
    (sameBoot : other.board.bootRom = console.board.bootRom)
    (long : Cartridge.headerEnd ≤ image.size) :
    other.attempt (insertCartridge image) = console.attempt (insertCartridge image) := by
  have accepted := Cartridge.load_of_long long
  rw [attempt_insertCartridge_of_ok accepted, attempt_insertCartridge_of_ok accepted, sameConfig,
    sameBoot]

/-- Consoles with the same options and the same cartridge are the same after the same
accepted boot program. -/
theorem attempt_installBootRom_congr {other : Console} (sameConfig : other.config = console.config)
    (sameCartridge : other.board.cartridge = console.board.cartridge)
    (exact : image.size = 0x100) :
    other.attempt (installBootRom image) = console.attempt (installBootRom image) := by
  rw [attempt_installBootRom_of_exact exact, attempt_installBootRom_of_exact exact, sameConfig,
    sameCartridge]

/-- A boot program and a cartridge may be loaded in either order, accepted or not. -/
theorem loads_comm (console : Console) (boot image : Image) :
    (console.performAll [.loadBootRom boot, .loadCartridge image]).2 =
      (console.performAll [.loadCartridge image, .loadBootRom boot]).2 := by
  simp only [performAll]
  by_cases exact : boot.size = 0x100
  · cases loaded : Cartridge.load image with
    | error error => simp only [perform_loadCartridge_of_error loaded]
    | ok result =>
        simp only [perform_loadBootRom_of_exact exact, perform_loadCartridge_of_ok loaded,
          config_powerOn, bootRom_powerOn, cartridge_powerOn]
  · simp only [perform_loadBootRom_of_wrong exact]

/-- Loads are atomic, and an image that is loaded forgets the past. Whatever happened to a
console, the changes that a load makes to it end in a rejection exactly if a boot program does
not have 256 bytes, or a cartridge ends inside its header; the reason is the one that the
length gives, and the console is then as it was. After an accepted cartridge two consoles with
the same options and the same boot program are the same, and likewise after an accepted boot
program and after a reset. So a boot program and a cartridge may be loaded in either order. -/
theorem loads_atomic (config : Config) (history : List Operation) (image : Image) :
    let console := after config history
    (∀ error later, console.attempt (installBootRom image) = (.error error, later) ↔
      image.size ≠ 256 ∧ error = .bootRomSize image.size ∧ later = console) ∧
    (∀ error later, console.attempt (insertCartridge image) = (.error error, later) ↔
      (image.size = 0 ∧ error = .emptyCartridge ∨
        0 < image.size ∧ image.size < 0x150 ∧ error = .shortCartridge image.size) ∧
      later = console) ∧
    ((∃ error, (console.attempt (insertCartridge image)).1 = .error error) ↔
      image.size < 0x150) ∧
    (∀ operation error, (console.perform operation).1 = .loaded (.error error) →
      (console.perform operation).2 = console) ∧
    (∀ otherConfig otherHistory,
      let other := after otherConfig otherHistory
      other.config = console.config →
        (other.board.bootRom = console.board.bootRom → 0x150 ≤ image.size →
          other.attempt (insertCartridge image) = console.attempt (insertCartridge image)) ∧
        (other.board.cartridge = console.board.cartridge → image.size = 256 →
          other.attempt (installBootRom image) = console.attempt (installBootRom image)) ∧
        (other.board.bootRom = console.board.bootRom →
          other.board.cartridge = console.board.cartridge → other.reset = console.reset)) ∧
    ∀ boot, (console.performAll [.loadBootRom boot, .loadCartridge image]).2 =
      (console.performAll [.loadCartridge image, .loadBootRom boot]).2 := by
  intro console
  refine ⟨fun _ _ => attempt_installBootRom_eq_error_iff, ?_, ?_, fun _ _ => perform_of_rejected,
    ?_, fun boot => loads_comm console boot image⟩
  · intro error later
    rw [attempt_insertCartridge_eq_error_iff, Cartridge.load_eq_error_iff]
    rfl
  · constructor
    · rintro ⟨error, rejected⟩
      refine Nat.lt_of_not_le fun long => ?_
      rw [attempt_insertCartridge_of_ok (Cartridge.load_of_long long)] at rejected
      exact nomatch rejected
    · intro short
      obtain ⟨error, rejected⟩ := Cartridge.exists_error_of_short short
      exact ⟨error, congrArg Prod.fst (attempt_insertCartridge_of_error rejected)⟩
  · intro otherConfig otherHistory other sameConfig
    refine ⟨attempt_insertCartridge_congr sameConfig, attempt_installBootRom_congr sameConfig, ?_⟩
    intro sameBoot sameCartridge
    rw [reset_eq_powerOn, reset_eq_powerOn, sameConfig, sameBoot, sameCartridge]

/-- A button held down since power-on is forgotten with the next cartridge. -/
theorem loads_atomic_of_held_button :
    let config : Config := { ramFill := .zeros }
    let console := after config [.setButton .start true]
    let image : Image := Array.replicate 0x150 0
    (after config []).config = console.config ∧
      (after config []).board.bootRom = console.board.bootRom ∧ 0x150 ≤ image.size ∧
        (after config []).attempt (insertCartridge image) =
          console.attempt (insertCartridge image) := by
  intro config console image
  have long : 0x150 ≤ image.size := by simp [image]
  obtain ⟨-, -, -, -, forgets, -⟩ := loads_atomic config [.setButton .start true] image
  obtain ⟨inserted, -, -⟩ := forgets config [] rfl
  exact ⟨rfl, rfl, long, inserted rfl long⟩

end GameBoy.Console
