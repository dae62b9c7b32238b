import GameBoy.Proofs.Console.PowerOn
import GameBoy.Proofs.Cpu.Simulation

/-!
# What is inserted

Images come into a console by loading, and stay as they are until the next load.
Running changes the cells of the cartridge's RAM and the registers of its circuit;
the image, the header and the size of the RAM are what loading made them.
-/

namespace GameBoy

namespace Cartridge

/-- What no operation changes in a cartridge. -/
structure Fixed where
  header : Header
  rom : Image
  ramSize : Nat

/-- The parts of a cartridge that stay as they are. -/
def fixed (cartridge : Cartridge) : Fixed :=
  { header := cartridge.header, rom := cartridge.rom, ramSize := cartridge.ram.size }

/-- The header was read from the image, and the RAM has the size that it states. -/
def Fixed.Genuine (parts : Fixed) : Prop :=
  ∃ long : headerEnd ≤ parts.rom.size,
    parts.header = Header.ofImage parts.rom long ∧ parts.ramSize = parts.header.ramSize

@[simp] theorem fixed_writeRom (cartridge : Cartridge) (address : RomAddress) (value : Byte) :
    (cartridge.writeRom address value).fixed = cartridge.fixed := rfl

@[simp] theorem fixed_writeRam (cartridge : Cartridge) (address : RamAddress) (value : Byte) :
    (cartridge.writeRam address value).fixed = cartridge.fixed := by
  simp only [fixed, size_ram_writeRam, Fixed.mk.injEq, and_true]
  simp only [writeRam]
  split <;> exact ⟨rfl, rfl⟩

@[simp] theorem fixed_loadRam (cartridge : Cartridge) (data : Array Byte) :
    (cartridge.loadRam data).fixed = cartridge.fixed := by
  simp only [fixed, size_ram_loadRam]
  rfl

theorem genuine_ofImage (image : Image) (long : headerEnd ≤ image.size) :
    (ofImage image long).fixed.Genuine :=
  ⟨long, rfl, Array.size_replicate⟩

end Cartridge

namespace Board

/-- The boot program, and the fixed parts of the cartridge. -/
def inserted (board : Board) : Option BootRom × Option Cartridge.Fixed :=
  (board.bootRom, board.cartridge.map Cartridge.fixed)

theorem inserted_modifyCartridge (board : Board) {change : Cartridge → Cartridge}
    (keeps : ∀ cartridge, (change cartridge).fixed = cartridge.fixed) :
    (board.modifyCartridge change).inserted = board.inserted := by
  simp only [inserted, modifyCartridge, Option.map_map]
  congr 2
  exact funext keeps

@[simp] theorem inserted_unmapBoot (board : Board) (value : Byte) :
    (board.unmapBoot value).1.inserted = board.inserted := by
  simp only [unmapBoot]
  split <;> rfl

@[simp] theorem inserted_writeDevice (board : Board) (register : Memory.DeviceRegister)
    (value : Byte) : (board.writeDevice register value).1.inserted = board.inserted := by
  cases register with
  | bootOverlay => exact board.inserted_unmapBoot value
  | _ => rfl

@[simp] theorem inserted_write (board : Board) (address : Word) (value : Byte) :
    (board.write address value).1.inserted = board.inserted := by
  simp only [write, writeRegion]
  split
  case h_1 => exact board.inserted_modifyCartridge fun cartridge => cartridge.fixed_writeRom _ _
  case h_3 => exact board.inserted_modifyCartridge fun cartridge => cartridge.fixed_writeRam _ _
  case h_7 => exact board.inserted_writeDevice _ value
  all_goals rfl

@[simp] theorem inserted_elapse (board : Board) (cycles : Nat) :
    (board.elapse cycles).1.inserted = board.inserted := rfl

/-- The processor cannot change what is inserted. -/
theorem keeps_inserted (parts : Option BootRom × Option Cartridge.Fixed) :
    Cpu.Keeps fun board : Board => board.inserted = parts where
  read _ holds := holds
  write address value holds := (inserted_write _ address value).trans holds
  elapse cycles _ holds := (inserted_elapse _ cycles).trans holds
  pending holds := holds
  acknowledge _ holds := holds

end Board

namespace Console

/-- The options and what is inserted. -/
def setting (console : Console) : Config × Option BootRom × Option Cartridge.Fixed :=
  (console.config, console.board.inserted)

@[simp] theorem setting_step (console : Console) :
    console.step.console.setting = console.setting := by
  have kept := (Board.keeps_inserted console.board.inserted).step
    { cpu := console.cpu, bus := console.board } rfl
  exact congrArg (Prod.mk console.config) kept

@[simp] theorem setting_renderFrame (console : Console) :
    console.renderFrame.console.setting = console.setting := by
  refine runFrame_keeps (fun after => after.setting = console.setting) ?_ ?_ _ ?_ 0 #[]
  · intro before kept
    exact before.setting_step.trans kept
  · intro before kept
    exact kept
  · rfl

/-- The cartridge is one that was loaded, whatever happened to it since. -/
def Genuine (console : Console) : Prop :=
  ∀ cartridge, console.board.cartridge = some cartridge → cartridge.fixed.Genuine

theorem Genuine.of_setting {before after : Console} (genuine : before.Genuine)
    (same : after.setting = before.setting) : after.Genuine := by
  intro cartridge present
  have parts : after.board.cartridge.map Cartridge.fixed =
      before.board.cartridge.map Cartridge.fixed :=
    congrArg (·.2.2) same
  rw [present, Option.map_some] at parts
  obtain ⟨earlier, found, equal⟩ := Option.map_eq_some_iff.mp parts.symm
  exact equal ▸ genuine earlier found

theorem cartridge_powerOn (config : Config) (bootRom : Option BootRom)
    (cartridge : Option Cartridge) :
    (powerOn config bootRom cartridge).board.cartridge = cartridge := by
  simp only [powerOn]
  split <;> rfl

theorem bootRom_powerOn (config : Config) (bootRom : Option BootRom)
    (cartridge : Option Cartridge) :
    (powerOn config bootRom cartridge).board.bootRom = bootRom := by
  simp only [powerOn]
  split <;> rfl

theorem config_powerOn (config : Config) (bootRom : Option BootRom)
    (cartridge : Option Cartridge) :
    (powerOn config bootRom cartridge).config = config := by
  simp only [powerOn]
  split <;> rfl

theorem genuine_powerOn {config : Config} {bootRom : Option BootRom}
    {cartridge : Option Cartridge}
    (genuine : ∀ inserted, cartridge = some inserted → inserted.fixed.Genuine) :
    (powerOn config bootRom cartridge).Genuine := by
  rw [Genuine, cartridge_powerOn]
  exact genuine

theorem genuine_of_load {image : Image} {cartridge : Cartridge} {events : List Event}
    (loaded : Cartridge.load image = .ok (cartridge, events)) : cartridge.fixed.Genuine := by
  simp only [Cartridge.load] at loaded
  split at loaded
  · exact nomatch loaded
  · split at loaded
    · injection loaded with equal
      injection equal with same
      exact same ▸ Cartridge.genuine_ofImage image _
    · exact nomatch loaded

/-- Every operation keeps the options, and the cartridge genuine. -/
theorem genuine_perform {console : Console} (genuine : console.Genuine)
    (operation : Operation) :
    (console.perform operation).2.config = console.config ∧
      (console.perform operation).2.Genuine := by
  cases operation with
  | loadBootRom image =>
      by_cases exact : image.size = 0x100
      · rw [perform_loadBootRom_of_exact exact]
        exact ⟨config_powerOn _ _ _, genuine_powerOn genuine⟩
      · rw [perform_loadBootRom_of_wrong exact]
        exact ⟨rfl, genuine⟩
  | loadCartridge image =>
      cases loaded : Cartridge.load image with
      | error =>
          rw [perform_loadCartridge_of_error loaded]
          exact ⟨rfl, genuine⟩
      | ok result =>
          rw [perform_loadCartridge_of_ok loaded]
          refine ⟨config_powerOn _ _ _, genuine_powerOn fun inserted same => ?_⟩
          injection same with same
          exact same ▸ genuine_of_load loaded
  | loadRam data =>
      have same : (console.loadRam data).setting = console.setting := by
        have parts := console.board.inserted_modifyCartridge
          fun cartridge => cartridge.fixed_loadRam data
        exact congrArg (Prod.mk console.config) parts
      exact ⟨rfl, genuine.of_setting same⟩
  | reset =>
      rw [perform_reset]
      exact ⟨config_powerOn _ _ _, genuine_powerOn genuine⟩
  | step => exact ⟨rfl, genuine.of_setting console.setting_step⟩
  | renderFrame =>
      have same := console.setting_renderFrame
      exact ⟨congrArg (·.1) same, genuine.of_setting same⟩
  | setButton => exact ⟨rfl, genuine⟩

theorem genuine_after (config : Config) (history : List Operation) :
    (after config history).config = config ∧ (after config history).Genuine := by
  have start : (new config).config = config ∧ (new config).Genuine := by
    rw [new_eq_powerOn]
    refine ⟨config_powerOn _ _ _, genuine_powerOn ?_⟩
    intro inserted present
    exact nomatch present
  refine performAll_keeps (fun console => console.config = config ∧ console.Genuine)
    ?_ start history
  rintro console operation ⟨same, genuine⟩
  obtain ⟨kept, later⟩ := genuine_perform genuine operation
  exact ⟨kept.trans same, later⟩

end Console

end GameBoy
