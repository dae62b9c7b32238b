import GameBoy.Proofs.Console.Operation
import GameBoy.Proofs.Memory.Noise

/-!
# Switching on

A reset works in place: it starts one device after another afresh, overwrites the
memories cell by cell, and sets the registers that a boot program would have set if
there is none. What comes of it can be put together from the options and from what
is inserted: nothing else of the console goes into it. An image is loaded by a change
of what is inserted and a reset, and rejected before either.
-/

namespace GameBoy

namespace Board

/-- The sound registers as a boot program leaves them, with a silent wave table. -/
def bootAudio : Vector Byte Memory.audioSize := #v[
  0x80, 0xBF, 0xF3, 0xFF, 0xBF, 0x00, 0x3F, 0x00,
  0xFF, 0xBF, 0x7F, 0xFF, 0x9F, 0xFF, 0xBF, 0x00,
  0xFF, 0x00, 0x00, 0xBF, 0x77, 0xF3, 0xF1, 0x00,
  0x00, 0x00, 0x00, 0x00, 0x00, 0x00, 0x00, 0x00,
  0x00, 0x00, 0x00, 0x00, 0x00, 0x00, 0x00, 0x00,
  0x00, 0x00, 0x00, 0x00, 0x00, 0x00, 0x00, 0x00]

/-- The board at power-on. A boot program covers the cartridge. -/
def powerOn (fill : Memory.Fill) (bootRom : Option BootRom)
    (cartridge : Option Cartridge) : Board :=
  let (workRam, highRam) := fill.memories
  { cartridge, bootRom, bootMapped := bootRom.isSome, workRam, highRam }

/-- The board as a boot program leaves it. A vertical blank is still requested. -/
def afterBoot (board : Board) : Board :=
  { board with
    serialControl := serialUnusedBits
    audio := bootAudio
    timer := .afterBoot
    lcd := .afterBoot
    interrupts := InterruptController.request {} .vblank }

variable (board : Board) (fill : Memory.Fill)

/-- Of a board that is restarted only what is inserted is left, and the mapping of the boot
program. -/
theorem restart_eq :
    board.restart fill =
      { powerOn fill board.bootRom board.cartridge with bootMapped := board.bootMapped } := by
  rw [restart, powerOn, fill.refill_eq]

theorem enterBoot_eq :
    board.enterBoot fill = powerOn fill board.bootRom board.cartridge := by
  rw [enterBoot, restart_eq]
  rfl

/-- The sound registers are set one by one. -/
theorem foldl_bootSound :
    bootSound.foldl (fun audio (place, value) => Memory.put audio place value)
      (Vector.replicate Memory.audioSize 0) = bootAudio := by
  decide

theorem skipBoot_eq {board : Board} (without : board.bootRom = none) :
    board.skipBoot fill = (powerOn fill board.bootRom board.cartridge).afterBoot := by
  simp only [skipBoot, restart_eq, without, powerOn, foldl_bootSound, Lcd.handOver_new]
  rfl

end Board

namespace Console

/-- Switch a console on. With a boot program the processor starts in it; without
one it starts in the cartridge, where a boot program would have handed over. -/
def powerOn (config : Config) (bootRom : Option BootRom) (cartridge : Option Cartridge) :
    Console :=
  let board := Board.powerOn config.ramFill bootRom cartridge
  if bootRom.isSome then { config, cpu := .powerOn, board }
  else { config, cpu := .afterBoot, board := board.afterBoot }

/-- A reset forgets everything but the options and what is inserted. -/
theorem reset_eq_powerOn (console : Console) :
    console.reset = powerOn console.config console.board.bootRom console.board.cartridge := by
  rw [reset, powerOn]
  split
  case isTrue => rw [Board.enterBoot_eq]
  case isFalse none => rw [Board.skipBoot_eq _ (Option.not_isSome_iff_eq_none.mp none)]

theorem new_eq_powerOn (config : Config) : new config = powerOn config none none :=
  reset_eq_powerOn _

variable {console : Console} {image : Image}

/-! ## Loads -/

theorem attempt_installBootRom_of_exact (exact : image.size = 0x100) :
    console.attempt (installBootRom image) =
      (.ok [.bootRomLoaded],
        powerOn console.config (some ⟨image, exact⟩) console.board.cartridge) := by
  have changed : console.attempt (installBootRom image) =
      (.ok [.bootRomLoaded], (console.setBootRom ⟨image, exact⟩).reset) := by
    rw [installBootRom, dif_pos exact]
    rfl
  rw [changed, reset_eq_powerOn]
  rfl

theorem attempt_installBootRom_of_wrong (wrong : image.size ≠ 0x100) :
    console.attempt (installBootRom image) = (.error (.bootRomSize image.size), console) := by
  rw [installBootRom, dif_neg wrong]
  rfl

/-- An accepted cartridge leaves only the options and the boot program of the past. -/
theorem attempt_insertCartridge_of_ok {cartridge : Cartridge} {events : List Event}
    (accepted : Cartridge.load image = .ok (cartridge, events)) :
    console.attempt (insertCartridge image) =
      (.ok events, powerOn console.config console.board.bootRom (some cartridge)) := by
  have changed : console.attempt (insertCartridge image) =
      (.ok events, (console.setCartridge cartridge).reset) := by
    rw [insertCartridge, accepted]
    rfl
  rw [changed, reset_eq_powerOn]
  rfl

theorem attempt_insertCartridge_of_error {error : LoadError}
    (rejected : Cartridge.load image = .error error) :
    console.attempt (insertCartridge image) = (.error error, console) := by
  rw [insertCartridge, rejected]
  rfl

/-! ## Operations that switch the console off and on -/

theorem perform_reset :
    console.perform .reset =
      (.done, powerOn console.config console.board.bootRom console.board.cartridge) :=
  congrArg (Prod.mk Answer.done) (reset_eq_powerOn console)

theorem perform_loadBootRom_of_exact (exact : image.size = 0x100) :
    console.perform (.loadBootRom image) =
      (.loaded (.ok [.bootRomLoaded]),
        powerOn console.config (some ⟨image, exact⟩) console.board.cartridge) :=
  congrArg afterLoad (attempt_installBootRom_of_exact exact)

theorem perform_loadBootRom_of_wrong (wrong : image.size ≠ 0x100) :
    console.perform (.loadBootRom image) =
      (.loaded (.error (.bootRomSize image.size)), console) :=
  congrArg afterLoad (attempt_installBootRom_of_wrong wrong)

theorem perform_loadCartridge_of_ok {cartridge : Cartridge} {events : List Event}
    (accepted : Cartridge.load image = .ok (cartridge, events)) :
    console.perform (.loadCartridge image) =
      (.loaded (.ok events),
        powerOn console.config console.board.bootRom (some cartridge)) :=
  congrArg afterLoad (attempt_insertCartridge_of_ok accepted)

theorem perform_loadCartridge_of_error {error : LoadError}
    (rejected : Cartridge.load image = .error error) :
    console.perform (.loadCartridge image) = (.loaded (.error error), console) :=
  congrArg afterLoad (attempt_insertCartridge_of_error rejected)

section

variable (Holds : Console → Prop) (same : Holds console)
  (afresh : ∀ bootRom cartridge, Holds (powerOn console.config bootRom cartridge))

include same afresh

/-- What a console keeps that is switched on afresh, a load of a boot program keeps. -/
theorem perform_loadBootRom_keeps (image : Image) :
    Holds (console.perform (.loadBootRom image)).2 := by
  by_cases exact : image.size = 0x100
  · rw [perform_loadBootRom_of_exact exact]
    exact afresh (some ⟨image, exact⟩) console.board.cartridge
  · rw [perform_loadBootRom_of_wrong exact]
    exact same

/-- What a console keeps that is switched on afresh, a load of a cartridge keeps. -/
theorem perform_loadCartridge_keeps (image : Image) :
    Holds (console.perform (.loadCartridge image)).2 := by
  cases loaded : Cartridge.load image with
  | error =>
      rw [perform_loadCartridge_of_error loaded]
      exact same
  | ok result =>
      rw [perform_loadCartridge_of_ok loaded]
      exact afresh console.board.bootRom (some result.1)

end

end Console

end GameBoy
