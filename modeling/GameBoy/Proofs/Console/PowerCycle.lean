import GameBoy.Proofs.Console.Inserted

/-!
# Resetting and switching on afresh

A new console can be brought to the images that are inserted in an old one, and to
the same cartridge RAM. A reset leads to the same console as that, but for the
registers of the cartridge's circuit: these a reset leaves as the program wrote
them, while a console that is switched on finds them in their first state.
-/

namespace GameBoy

namespace Cartridge

/-- The cartridge with its circuit at power-on, and its image and RAM as they are. -/
def powerCycled (cartridge : Cartridge) : Cartridge :=
  { cartridge with mapper := .ofHeader cartridge.header }

theorem load_of_genuine {cartridge : Cartridge} (genuine : cartridge.fixed.Genuine) :
    ∃ events, load cartridge.rom = .ok
      ({ cartridge.powerCycled with ram := Array.replicate cartridge.ram.size 0xFF },
        events) := by
  obtain ⟨long, header, size⟩ := genuine
  simp only [fixed] at long header size
  have filled : cartridge.rom.isEmpty = false := by
    rw [Array.isEmpty_eq_false_iff_exists_mem]
    have : 0x150 ≤ cartridge.rom.size := long
    exact ⟨cartridge.rom[0], Array.getElem_mem _⟩
  have built : ofImage cartridge.rom long =
      { cartridge.powerCycled with ram := Array.replicate cartridge.ram.size 0xFF } := by
    simp only [ofImage, powerCycled, size, header]
  simp only [load, filled, dif_pos long, built]
  exact ⟨_, rfl⟩

/-- RAM of the right size replaces the whole RAM. -/
theorem loadRam_of_size {cartridge : Cartridge} {data : Array Byte}
    (same : data.size = cartridge.ram.size) :
    cartridge.loadRam data = { cartridge with ram := data } := by
  have rest : cartridge.ram.extract cartridge.ram.size cartridge.ram.size = #[] :=
    Array.extract_empty_of_stop_le_start (Nat.le_refl _)
  simp only [loadRam, same, rest, Array.append_empty]
  rw [← same, Array.extract_size]

end Cartridge

namespace Console

theorem snd_performAll_append (console : Console) (earlier later : List Operation) :
    (console.performAll (earlier ++ later)).2 =
      ((console.performAll earlier).2.performAll later).2 := by
  induction earlier generalizing console with
  | nil => rfl
  | cons operation earlier ih => exact ih (console.perform operation).2

/-- The loads that bring a new console to the images and the RAM of this one. -/
def insertions (console : Console) : List Operation :=
  (console.board.bootRom.map fun image => .loadBootRom image.toArray).toList ++
    ((console.board.cartridge.map fun cartridge => .loadCartridge cartridge.rom).toList ++
      (console.ram?.map .loadRam).toList)

/-- A new console with the same options, into which the same images and the same
RAM are loaded. -/
def fresh (console : Console) : Console := after console.config console.insertions

/-- What a program can come to notice of a console: its registers, what it reads
at every address, and the answers to whatever is asked of it later. -/
structure SameToHost (left right : Console) : Prop where
  registers : left.cpu.registers = right.cpu.registers
  peek : ∀ address, left.peek address = right.peek address
  answers : ∀ later, (left.performAll later).1 = (right.performAll later).1

/-! ## Loading into a new console -/

theorem loadBootRom_toArray (console : Console) (image : BootRom) :
    (console.perform (.loadBootRom image.toArray)).2 =
      powerOn console.config (some image) console.board.cartridge := by
  rw [perform_loadBootRom_of_exact image.size_toArray]

theorem loadCartridge_of_genuine (console : Console) {cartridge : Cartridge}
    (genuine : cartridge.fixed.Genuine) :
    (console.perform (.loadCartridge cartridge.rom)).2 =
      powerOn console.config console.board.bootRom
        (some { cartridge.powerCycled with
          ram := Array.replicate cartridge.ram.size 0xFF }) := by
  obtain ⟨events, loaded⟩ := Cartridge.load_of_genuine genuine
  rw [perform_loadCartridge_of_ok loaded]

theorem loadRam_powerOn (config : Config) (bootRom : Option BootRom) (cartridge : Cartridge)
    (data : Array Byte) :
    ((powerOn config bootRom (some cartridge)).perform (.loadRam data)).2 =
      powerOn config bootRom (some (cartridge.loadRam data)) := by
  simp only [perform, powerOn]
  split <;> rfl

theorem performAll_insert_bootRom (config : Config) (bootRom : Option BootRom) :
    ((new config).performAll
        (bootRom.map fun image => Operation.loadBootRom image.toArray).toList).2 =
      powerOn config bootRom none := by
  rw [new_eq_powerOn]
  cases bootRom with
  | none => rfl
  | some image =>
      have loaded := (powerOn config none none).loadBootRom_toArray image
      rw [config_powerOn, cartridge_powerOn] at loaded
      exact loaded

/-- A new console into which everything was loaded is a console that was switched
on with the cartridge's circuit at power-on. -/
theorem fresh_eq {console : Console} (genuine : console.Genuine) :
    console.fresh = powerOn console.config console.board.bootRom
      (console.board.cartridge.map Cartridge.powerCycled) := by
  rw [fresh, after, insertions, snd_performAll_append, performAll_insert_bootRom]
  rw [ram?]
  cases present : console.board.cartridge with
  | none => rfl
  | some cartridge =>
      have inserted := (powerOn console.config console.board.bootRom none).loadCartridge_of_genuine
        (genuine cartridge present)
      rw [config_powerOn, bootRom_powerOn] at inserted
      simp only [Option.map_some, Option.toList_some, List.singleton_append, performAll,
        inserted, loadRam_powerOn]
      rw [Cartridge.loadRam_of_size (by simp)]
      rfl

/-! ## Resetting -/

/-- Whether the circuit of the cartridge has its registers at power-on. -/
def CircuitAtPowerOn (console : Console) : Prop :=
  ∀ cartridge, console.board.cartridge = some cartridge →
    cartridge.mapper = .ofHeader cartridge.header

theorem circuitAtPowerOn_iff {console : Console} :
    console.CircuitAtPowerOn ↔
      console.board.cartridge.map Cartridge.powerCycled = console.board.cartridge := by
  rw [CircuitAtPowerOn]
  cases console.board.cartridge with
  | none => exact ⟨fun _ => rfl, fun _ _ present => nomatch present⟩
  | some cartridge =>
      rw [Option.map_some]
      constructor
      · intro first
        rw [Cartridge.powerCycled, ← first cartridge rfl]
      · intro same other present
        injection same with same
        injection present with present
        exact present ▸ (congrArg Cartridge.mapper same).symm

theorem powerOn_cartridge (config : Config) (bootRom : Option BootRom)
    (cartridge other : Option Cartridge) :
    powerOn config bootRom cartridge =
      { powerOn config bootRom other with
        board := { (powerOn config bootRom other).board with cartridge } } := by
  simp only [powerOn]
  split <;> rfl

/-- A reset is a power cycle of everything but the cartridge's circuit. The console
after it is the fresh one, with the same registers, the same memory and the same
answers ever after, exactly when the circuit's registers are as they were at
power-on; otherwise the two differ in those registers and in nothing else. -/
theorem reset_eq_fresh_iff (config : Config) (history : List Operation) :
    let console := after config history
    (console.reset = console.fresh ↔ console.CircuitAtPowerOn) ∧
      (console.CircuitAtPowerOn → SameToHost console.reset console.fresh) ∧
      console.reset =
        { console.fresh with
          board := { console.fresh.board with cartridge := console.board.cartridge } } ∧
      console.fresh.board.cartridge = console.board.cartridge.map Cartridge.powerCycled := by
  have fresh := fresh_eq (genuine_after config history).2
  generalize after config history = console at fresh
  have same_iff : console.reset = console.fresh ↔ console.CircuitAtPowerOn := by
    rw [fresh, reset_eq_powerOn, circuitAtPowerOn_iff]
    constructor
    · intro same
      have cartridges := congrArg (·.board.cartridge) same
      simp only [cartridge_powerOn] at cartridges
      exact cartridges.symm
    · intro same
      rw [same]
  refine ⟨same_iff, ?_, ?_, ?_⟩
  · intro first
    rw [same_iff.mpr first]
    exact ⟨rfl, fun _ => rfl, fun _ => rfl⟩
  · rw [fresh, reset_eq_powerOn]
    exact powerOn_cartridge _ _ _ _
  · rw [fresh, cartridge_powerOn]

/-- A cartridge with the first circuit and RAM, whose program enables the RAM and
writes a byte there. -/
def ramWriter : Image :=
  [(0x100, 0x3E), (0x101, 0x0A), (0x102, 0xEA), (0x105, 0xEA), (0x107, 0xA0), (0x147, 0x03),
    (0x149, 0x02)].foldl (fun image cell => image.setIfInBounds cell.1 cell.2)
      (Array.replicate 0x150 0)

/-- After that program a reset leaves the RAM enabled, while in a fresh console it
is disabled. -/
theorem reset_keeps_ram_enabled :
    let console := after { ramFill := .zeros } [.loadCartridge ramWriter, .step, .step, .step]
    console.reset.peek 0xA000 = 0x0A ∧ console.fresh.peek 0xA000 = 0xFF := by
  decide +kernel

end Console

end GameBoy
