import GameBoy.Proofs.Console.Faults
import GameBoy.Proofs.Console.PowerCycle
import GameBoy.Proofs.Console.TimerInterrupts

/-!
# The boot program and the cartridge

What was loaded cannot be written: while a console stays on, the boot program, the image and
the header of the cartridge and the size of its RAM are what they were. The boot program
covers the start of the cartridge until a bit of one register unmaps it. No other access
does, and nothing but switching the console off and on maps it again.
-/

namespace GameBoy

open Cpu Memory

/-- Whether an access sets the bit that unmaps the boot program. -/
def Cpu.Access.unmapsBoot : Access → Bool
  | .write address value => address = 0xFF50 && value.bit 0
  | .elapse _ => false

theorem Cpu.Access.any_unmapsBoot {accesses : List Access} :
    accesses.any unmapsBoot = true ↔
      ∃ value, Byte.bit value 0 = true ∧ .write 0xFF50 value ∈ accesses := by
  rw [List.any_eq_true]
  constructor
  · rintro ⟨access, member, unmaps⟩
    cases access with
    | elapse => exact nomatch unmaps
    | write address value =>
        obtain ⟨place, set⟩ := Bool.and_eq_true_iff.mp unmaps
        exact ⟨value, set, of_decide_eq_true place ▸ member⟩
  · rintro ⟨value, set, member⟩
    exact ⟨_, member, by simp [unmapsBoot, set]⟩

theorem Memory.Region.ofAddress_of_rom (address : Cartridge.RomAddress) :
    ofAddress (UInt16.ofNat address) = .rom address := by
  have inside := address.isLt
  have place : (UInt16.ofNat address).toNat = address.val :=
    UInt16.toNat_ofNat_of_lt' (Nat.lt_trans inside (by decide))
  simp only [ofAddress, place, inside, dite_true]

theorem Memory.DeviceRegister.ofIndex_eq_bootOverlay_iff (index : Fin 0x80) :
    ofIndex index = .bootOverlay ↔ index.val = 0x50 := by
  revert index
  decide

/-- The register of the boot program has one address. -/
theorem Memory.DeviceRegister.ofIndex_eq_bootOverlay {address : Word} {index : Fin 0x80}
    (device : Region.ofAddress address = .device index) :
    ofIndex index = .bootOverlay ↔ address = 0xFF50 := by
  have place := Region.ofAddress_eq_device_iff.mp device
  rw [ofIndex_eq_bootOverlay_iff, ← UInt16.toNat_inj, place]
  exact (Nat.add_left_cancel_iff (n := 0xFF00) (k := 0x50)).symm

namespace Board

/-! ## One access -/

/-- A register other than its own leaves the overlay alone. -/
theorem bootMapped_writeDevice (board : Board) (register : DeviceRegister) (value : Byte) :
    (board.writeDevice register value).1.bootMapped =
      (board.bootMapped && !(register = .bootOverlay && value.bit 0)) := by
  cases register with
  | bootOverlay =>
      simp only [writeDevice, unmapBoot]
      cases value.bit 0 <;> cases mapped : board.bootMapped <;> simp [mapped]
  | _ => simp [writeDevice, writeLcd, transferSprites]

theorem bootMapped_access (board : Board) (access : Access) :
    (board.access access).bootMapped = (board.bootMapped && !access.unmapsBoot) := by
  cases access with
  | elapse cycles => exact (Bool.and_true _).symm
  | write address value =>
      simp only [Board.access, write, Access.unmapsBoot]
      cases region : Region.ofAddress address with
      | device index =>
          rw [← decide_eq_decide.mpr (DeviceRegister.ofIndex_eq_bootOverlay region)]
          exact board.bootMapped_writeDevice _ value
      | _ =>
          have other : address ≠ 0xFF50 := by
            rintro rfl
            cases region
          simp [other, writeRegion, modifyCartridge]

/-- Some accesses leave the boot program mapped if none of them unmaps it. -/
theorem bootMapped_accessAll (board : Board) (accesses : List Access) :
    (board.accessAll accesses).bootMapped =
      (board.bootMapped && !accesses.any Access.unmapsBoot) := by
  induction accesses generalizing board with
  | nil => exact (Bool.and_true _).symm
  | cons access accesses ih =>
      rw [accessAll, List.foldl_cons, ← accessAll, ih, bootMapped_access, List.any_cons,
        Bool.not_or, Bool.and_assoc]

end Board

namespace Console

variable {console : Console} {config : Config}

/-! ## While the console stays on -/

/-- A step unmaps the boot program exactly if one of its accesses does. -/
theorem bootMapped_step (console : Console) :
    console.step.console.board.bootMapped =
      (console.board.bootMapped && !(console.moveAccesses .step).any Access.unmapsBoot) := by
  have same : (console.board.acknowledged console.activity).bootMapped =
      console.board.bootMapped := by
    cases console.activity <;> rfl
  rw [board_step, Board.bootMapped_accessAll, same]

/-- What lasts while a console stays on: its options, what is inserted, and that the boot
program is unmapped. -/
structure Retains (before after : Console) : Prop where
  setting : after.setting = before.setting
  unmapped : before.board.bootMapped = false → after.board.bootMapped = false

theorem Retains.refl (console : Console) : console.Retains console := ⟨rfl, id⟩

theorem Retains.trans {first second third : Console} (earlier : first.Retains second)
    (later : second.Retains third) : first.Retains third :=
  ⟨later.setting.trans earlier.setting, fun off => later.unmapped (earlier.unmapped off)⟩

theorem retains_move (console : Console) (move : Move) :
    console.Retains (console.move move) := by
  cases move with
  | step =>
      refine ⟨console.setting_step, fun off => ?_⟩
      rw [Console.move, bootMapped_step, off, Bool.false_and]
  | loadRam data =>
      have inserted := console.board.inserted_modifyCartridge
        fun cartridge => cartridge.fixed_loadRam data
      exact ⟨congrArg (Prod.mk console.config) inserted, id⟩
  | setButton | noticeFrame => exact ⟨rfl, id⟩

/-- A frame is a run of steps. -/
theorem retains_renderFrame (console : Console) :
    console.Retains console.renderFrame.console := by
  refine runFrame_keeps console.Retains ?_ ?_ _ (console.retains_move .noticeFrame) 0 #[]
  · exact fun here kept => kept.trans (here.retains_move .step)
  · exact fun here kept => kept.trans (here.retains_move .noticeFrame)

/-- Only what switches the console off and on again changes what lasts. -/
theorem retains_perform {operation : Operation} (on : ¬ operation.Restarts) :
    console.Retains (console.perform operation).2 := by
  cases operation with
  | reset => exact absurd trivial on
  | loadBootRom image =>
      rw [perform_loadBootRom_of_wrong on]
      exact .refl console
  | loadCartridge image =>
      obtain ⟨error, rejected⟩ := Cartridge.exists_error_of_short (Nat.lt_of_not_le on)
      rw [perform_loadCartridge_of_error rejected]
      exact .refl console
  | loadRam data => exact console.retains_move (.loadRam data)
  | step => exact console.retains_move .step
  | renderFrame => exact console.retains_renderFrame
  | setButton button pressed => exact console.retains_move (.setButton button pressed)

theorem retains_performAll {operations : List Operation}
    (on : ∀ operation ∈ operations, ¬ operation.Restarts) :
    console.Retains (console.performAll operations).2 := by
  induction operations generalizing console with
  | nil => exact .refl console
  | cons operation operations ih =>
      obtain ⟨first, rest⟩ := List.forall_mem_cons.mp on
      exact (retains_perform first).trans (ih rest)

/-! ## While the boot program is mapped -/

theorem bootMapped_powerOn (config : Config) (bootRom : Option BootRom)
    (cartridge : Option Cartridge) :
    (powerOn config bootRom cartridge).board.bootMapped = bootRom.isSome := by
  simp only [powerOn]
  split <;> rfl

/-- Nothing is mapped but a boot program that is installed. -/
theorem SwitchedOn.exists_bootRom (on : SwitchedOn config console)
    (mapped : console.board.bootMapped = true) : ∃ image, console.board.bootRom = some image := by
  rw [← Option.isSome_iff_exists]
  refine on.keeps (fun here => here.board.bootMapped = true → here.board.bootRom.isSome = true)
    ?_ ?_ mapped
  · intro bootRom cartridge mapped
    rw [bootMapped_powerOn] at mapped
    rwa [bootRom_powerOn]
  · intro here move installed mapped
    have kept := here.retains_move move
    have before : here.board.bootMapped = true := by
      by_contra off
      exact nomatch (kept.unmapped (Bool.eq_false_iff.mpr off)).symm.trans mapped
    have same : (here.move move).board.bootRom = here.board.bootRom :=
      congrArg (·.2.1) kept.setting
    exact same ▸ installed before

/-- The boot program covers the first page of the cartridge, and no more. -/
theorem peek_of_mapped (mapped : console.board.bootMapped = true) {image : BootRom}
    (installed : console.board.bootRom = some image) (address : Cartridge.RomAddress) :
    console.peek (UInt16.ofNat address) =
      if covered : address.val < 0x100 then image[address.val]
      else console.board.cartridge.elim 0xFF (·.readRom address) := by
  have overlay : console.board.overlay? = some image := by
    rw [Board.overlay?, if_pos mapped, installed]
  rw [peek, Board.read, Region.ofAddress_of_rom, Board.readRegion, Board.readRom, overlay]
  rfl

/-- Images are immutable, and the overlay of the boot program is a latch that only opens. From
every console that can occur, and through every sequence of operations that do not switch it
off and on: the boot program stays what it was, and so do the image and the header of the
cartridge and the size of its RAM; a boot program that is unmapped stays unmapped; and while
it is mapped there is one, which covers the first page of the cartridge, while the cartridge
answers at the rest of its addresses. In every step of every console, those of a frame
included, the boot program becomes unmapped exactly if it is mapped and the step writes a
value with bit 0 set to its register. -/
theorem overlay_latched (config : Config) (history operations : List Operation)
    (on : ∀ operation ∈ operations, ¬ operation.Restarts) :
    let console := after config history
    let later := (console.performAll operations).2
    (later.board.bootRom = console.board.bootRom ∧
        later.board.cartridge.map (·.rom) = console.board.cartridge.map (·.rom) ∧
        later.header? = console.header? ∧
        later.ram?.map (·.size) = console.ram?.map (·.size)) ∧
      (console.board.bootMapped = false → later.board.bootMapped = false) ∧
      (later.board.bootMapped = true → ∃ image, later.board.bootRom = some image ∧
        ∀ address : Cartridge.RomAddress, later.peek (UInt16.ofNat address) =
          if covered : address.val < 0x100 then image[address.val]
          else later.board.cartridge.elim 0xFF (·.readRom address)) ∧
      ∀ stepping : Console,
        stepping.board.bootMapped = true ∧ stepping.step.console.board.bootMapped = false ↔
          stepping.board.bootMapped = true ∧
            ∃ value, Byte.bit value 0 = true ∧
              .write 0xFF50 value ∈ stepping.moveAccesses .step := by
  intro console later
  have kept : console.Retains later := retains_performAll on
  have inserted : later.board.inserted = console.board.inserted := congrArg Prod.snd kept.setting
  have fixed : later.board.cartridge.map Cartridge.fixed =
      console.board.cartridge.map Cartridge.fixed := congrArg Prod.snd inserted
  have parts {α : Type} (part : Cartridge.Fixed → α) :
      later.board.cartridge.map (fun cartridge => part cartridge.fixed) =
        console.board.cartridge.map fun cartridge => part cartridge.fixed := by
    have same := congrArg (Option.map part) fixed
    rwa [Option.map_map, Option.map_map] at same
  have size (here : Console) : here.ram?.map (·.size) =
      here.board.cartridge.map fun cartridge => cartridge.fixed.ramSize := by
    rw [ram?, Option.map_map]
    rfl
  refine ⟨⟨congrArg Prod.fst inserted, parts (·.rom), parts (·.header), ?_⟩, kept.unmapped,
    fun mapped => ?_, fun stepping => ?_⟩
  · rw [size, size]
    exact parts (·.ramSize)
  · have reached : SwitchedOn config later := by
      have whole := switchedOn_after config (history ++ operations)
      rwa [after, snd_performAll_append] at whole
    obtain ⟨image, installed⟩ := reached.exists_bootRom mapped
    exact ⟨image, installed, peek_of_mapped mapped installed⟩
  · refine and_congr_right fun mapped => ?_
    rw [bootMapped_step, mapped, Bool.true_and, Bool.not_eq_false', Access.any_unmapsBoot]

/-- A cartridge, and a boot program that begins by unmapping itself. -/
def handover : List Operation :=
  [.loadCartridge (Cartridge.shortestImage [(0x101, 0xC3)]),
    .loadBootRom (((((Array.replicate 0x100 0).setIfInBounds 0 0x3E).setIfInBounds 1
      0x01).setIfInBounds 2 0xE0).setIfInBounds 3 0x50)]

/-- Its second instruction unmaps the boot program, and the cartridge appears below it. -/
theorem overlay_latched_of_handover :
    let start := after { ramFill := .zeros } handover
    let later := (start.performAll [.step, .setButton .up true]).2
    later.board.bootRom = start.board.bootRom ∧ later.board.bootMapped = true ∧
      later.peek 0 = 0x3E ∧ later.peek 0x101 = 0xC3 ∧
      later.step.console.board.bootMapped = false ∧ later.step.console.peek 0 = 0x00 := by
  intro start
  have on : ∀ operation ∈ [Operation.step, .setButton .up true], ¬ operation.Restarts := by
    simp [Operation.Restarts]
  have facts : let later := (start.performAll [.step, .setButton .up true]).2
      later.board.bootMapped = true ∧ later.board.bootRom.all (·[0] == 0x3E) = true ∧
        later.board.cartridge.elim 0xFF (·.readRom 0x101) = 0xC3 ∧
        later.moveAccesses .step = [.write 0xFF50 0x01, .elapse 12] ∧
        later.step.console.peek 0 = 0x00 := by
    decide +kernel
  obtain ⟨⟨same, -⟩, -, covers, latch⟩ := overlay_latched { ramFill := .zeros } handover _ on
  generalize (start.performAll [.step, .setButton .up true]).2 = later
    at facts same covers latch ⊢
  obtain ⟨mapped, first, second, wrote, bare⟩ := facts
  obtain ⟨image, installed, shows⟩ := covers mapped
  have page : image[0] = 0x3E := by
    rw [installed] at first
    exact beq_iff_eq.mp first
  have low := shows 0
  have high := shows 0x101
  rw [dif_pos (by decide)] at low
  rw [dif_neg (by decide)] at high
  have written : ∃ value, Byte.bit value 0 = true ∧
      .write 0xFF50 value ∈ later.moveAccesses .step := by
    rw [wrote]
    exact ⟨0x01, by decide, List.mem_cons_self⟩
  obtain ⟨-, opened⟩ := (latch later).mpr ⟨mapped, written⟩
  refine ⟨?_, mapped, low.trans page, high.trans second, opened, bare⟩
  -- The two sides agree as they stand; unfolding them would run the console.
  with_reducible exact same

end Console

end GameBoy
