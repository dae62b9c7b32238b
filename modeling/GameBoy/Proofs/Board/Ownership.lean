import GameBoy.Board

/-!
# Every write has one owner

The memory map divides the address space among the memories and the devices. A write to a
memory changes one cell of it, which is read at one address, or at two in work RAM, and all
other addresses read as before. Where a lock of the screen or the cartridge keeps a write
out, nothing changes. Nothing but the memory is touched: no device, no circuit, no overlay.
-/

namespace GameBoy

namespace Memory

/-- Whether a region has an address. -/
def Region.Covers (region : Region) (place : Nat) : Prop :=
  match region with
  | .rom address => place = address.val
  | .videoRam offset => place = 0x8000 + offset.val
  | .cartridgeRam offset => place = 0xA000 + offset.val
  | .workRam offset =>
    place = 0xC000 + offset.val ∨ place = 0xE000 + offset.val ∧ place < 0xFE00
  | .spriteTable offset => place = 0xFE00 + offset.val
  | .unused => 0xFEA0 ≤ place ∧ place < 0xFF00
  | .device index => place = 0xFF00 + index.val
  | .highRam offset => place = 0xFF80 + offset.val
  | .interruptEnable => place = 0xFFFF

/-- The map gives every address to the region that has it. -/
theorem Region.ofAddress_eq_iff {address : Word} {region : Region} :
    ofAddress address = region ↔ region.Covers address.toNat := by
  have bound := address.toNat_lt
  fun_cases ofAddress address <;> cases region <;> simp [Covers, Fin.ext_iff] <;> omega

/-- Whether a region is a memory, or nothing at all. -/
def Region.IsMemory : Region → Prop
  | .rom _ | .device _ | .interruptEnable => False
  | _ => True

/-- Whether a region has one address. -/
def Region.Single : Region → Prop
  | .workRam _ | .unused => False
  | _ => True

theorem Region.covers_iff {region : Region} (single : region.Single) {place : Nat}
    (here : region.Covers place) (other : Nat) : region.Covers other ↔ other = place := by
  cases region with
  | workRam | unused => exact single.elim
  | _ =>
      simp only [Covers] at here ⊢
      rw [here]

theorem get_put {count : Nat} (cells : Vector Byte count) (place other : Fin count)
    (value : Byte) :
    (put cells place value).get other = if other = place then value else cells.get other := by
  have found : (cells.set place value)[other.val] =
      if place.val = other.val then value else cells[other.val] := Vector.getElem_set ..
  simp only [Fin.ext_iff, eq_comm (a := other.val)]
  exact found

end Memory

namespace Lcd

variable (lcd : Lcd)

theorem vramAccessible_iff :
    lcd.vramAccessible = true ↔ lcd.enabled = false ∨ lcd.mode ≠ .transfer := by
  simp [vramAccessible]

theorem oamAccessible_iff :
    lcd.oamAccessible = true ↔
      lcd.enabled = false ∨ lcd.mode = .hblank ∨ lcd.mode = .vblank := by
  simp [oamAccessible, or_assoc]

theorem readVram_of_accessible (accessible : lcd.vramAccessible = true) (offset : Fin 0x2000) :
    lcd.readVram offset = lcd.vram.get offset := if_pos accessible

theorem readOam_of_accessible (accessible : lcd.oamAccessible = true) (offset : Fin 0xA0) :
    lcd.readOam offset = lcd.oam.get offset := if_pos accessible

end Lcd

namespace Cartridge

variable (cartridge : Cartridge) (address : RamAddress) (value : Byte)

/-- Apart from its RAM a cartridge is not changed. -/
theorem blank_writeRam :
    { cartridge.writeRam address value with ram := #[] } = { cartridge with ram := #[] } := by
  unfold writeRam
  split <;> rfl

/-- The RAM is not seen through the ROM window. -/
theorem readRom_writeRam (place : RomAddress) :
    (cartridge.writeRam address value).readRom place = cartridge.readRom place := by
  unfold writeRam
  split <;> rfl

end Cartridge

namespace Board

open Memory

/-! ## Regions -/

section Regions

variable (board : Board)

theorem readRegion_put_workRam (offset : Fin 0x2000) (value : Byte) (region : Region) :
    ({ board with workRam := put board.workRam offset value } : Board).readRegion region =
      if region = .workRam offset then value else board.readRegion region := by
  cases region with
  | workRam other =>
      simp only [readRegion, Region.workRam.injEq]
      exact get_put board.workRam offset other value
  | _ => rfl

theorem readRegion_put_highRam (offset : Fin 0x7F) (value : Byte) (region : Region) :
    ({ board with highRam := put board.highRam offset value } : Board).readRegion region =
      if region = .highRam offset then value else board.readRegion region := by
  cases region with
  | highRam other =>
      simp only [readRegion, Region.highRam.injEq]
      exact get_put board.highRam offset other value
  | _ => rfl

/-- The video memory, while no lock is on it. -/
theorem readRegion_put_vram (accessible : board.lcd.vramAccessible = true)
    (offset : Fin 0x2000) (value : Byte) (region : Region) :
    ({ board with lcd := { board.lcd with vram := put board.lcd.vram offset value } } :
        Board).readRegion region =
      if region = .videoRam offset then value else board.readRegion region := by
  cases region with
  | videoRam other =>
      simp only [readRegion, Region.videoRam.injEq, board.lcd.readVram_of_accessible accessible]
      refine (Lcd.readVram_of_accessible _ ?_ other).trans
        (get_put board.lcd.vram offset other value)
      exact accessible
  | _ => rfl

/-- The sprite table, while no lock is on it. -/
theorem readRegion_put_oam (accessible : board.lcd.oamAccessible = true)
    (offset : Fin 0xA0) (value : Byte) (region : Region) :
    ({ board with lcd := { board.lcd with oam := put board.lcd.oam offset value } } :
        Board).readRegion region =
      if region = .spriteTable offset then value else board.readRegion region := by
  cases region with
  | spriteTable other =>
      simp only [readRegion, Region.spriteTable.injEq, board.lcd.readOam_of_accessible accessible]
      refine (Lcd.readOam_of_accessible _ ?_ other).trans
        (get_put board.lcd.oam offset other value)
      exact accessible
  | _ => rfl

/-- The RAM of the cartridge is seen through its own window only. -/
theorem readRegion_writeRam (offset : Fin 0x2000) (value : Byte) {region : Region}
    (other : ∀ place, region ≠ .cartridgeRam place) :
    (board.modifyCartridge (·.writeRam offset value)).readRegion region =
      board.readRegion region := by
  cases region with
  | cartridgeRam place => exact absurd rfl (other place)
  | rom place =>
      have slot : (board.modifyCartridge (·.writeRam offset value)).readSlot place =
          board.readSlot place := by
        simp only [readSlot, modifyCartridge]
        cases board.cartridge with
        | none => rfl
        | some cartridge => exact cartridge.readRom_writeRam offset value place
      simp only [readRegion, readRom, slot]
      rfl
  | _ => rfl

end Regions

/-! ## Addresses -/

/-- One cell takes a value: it is read at the addresses of the cell, and all other addresses
read as before. -/
structure Stores (before after : Board) (value : Byte) (cell : Word → Prop) : Prop where
  found : ∀ address, cell address → after.read address = value
  kept : ∀ address, ¬ cell address → after.read address = before.read address

/-- Two boards that differ at most in what their memories hold. -/
structure SameDevices (before after : Board) : Prop where
  timer : after.timer = before.timer
  lcd : { after.lcd with vram := before.lcd.vram, oam := before.lcd.oam } = before.lcd
  interrupts : after.interrupts = before.interrupts
  joypad : after.joypad = before.joypad
  /-- The image and the circuit, with its registers. -/
  cartridge : after.cartridge.map ({ · with ram := #[] }) =
    before.cartridge.map ({ · with ram := #[] })
  bootRom : after.bootRom = before.bootRom
  bootMapped : after.bootMapped = before.bootMapped
  serialData : after.serialData = before.serialData
  serialControl : after.serialControl = before.serialControl
  audio : after.audio = before.audio
  transferPage : after.transferPage = before.transferPage

variable {board after : Board} {value : Byte}

/-- What is known of all regions is known of all addresses. -/
theorem Stores.of_region {region : Region} {cell : Word → Prop}
    (reads : ∀ other, after.readRegion other =
      if other = region then value else board.readRegion other)
    (addresses : ∀ address, cell address ↔ Region.ofAddress address = region) :
    board.Stores after value cell where
  found address here := (reads _).trans (if_pos ((addresses address).mp here))
  kept address elsewhere := (reads _).trans (if_neg (mt (addresses address).mpr elsewhere))

end Board

/-- The addresses of a cell of work RAM: each appears again `0x2000` higher, up to the sprite
table. -/
def Memory.SameCell (address other : Word) : Prop :=
  other = address ∨
    other = address + 0x2000 ∧ 0xE000 ≤ other.toNat ∧ other.toNat ≤ 0xFDFF ∨
    address = other + 0x2000 ∧ 0xE000 ≤ address.toNat ∧ address.toNat ≤ 0xFDFF

theorem Memory.sameCell_iff {address : Word} {offset : Fin 0x2000}
    (region : Region.ofAddress address = .workRam offset) (other : Word) :
    SameCell address other ↔ Region.ofAddress other = .workRam offset := by
  have step : (0x2000 : Word).toNat = 0x2000 := rfl
  have := other.toNat_lt
  have := offset.isLt
  rw [Region.ofAddress_eq_iff] at region ⊢
  simp only [Region.Covers] at region ⊢
  simp only [SameCell, ← UInt16.toNat_inj, UInt16.toNat_add, step]
  omega

namespace Board

open Memory

variable (board : Board)

/-- A write that no lock keeps out reaches its cell. -/
theorem stores_workRam {address : Word} {offset : Fin 0x2000}
    (region : Region.ofAddress address = .workRam offset) (value : Byte) :
    board.Stores (board.write address value).1 value (SameCell address) := by
  refine .of_region ?_ (sameCell_iff region)
  rw [write, region]
  exact board.readRegion_put_workRam offset value

/-- An address that shares its cell with no other one. -/
theorem stores_of_single {address : Word} {region : Region}
    (here : Region.ofAddress address = region) (single : region.Single) {value : Byte}
    (reads : ∀ other, (board.writeRegion region value).1.readRegion other =
      if other = region then value else board.readRegion other) :
    board.Stores (board.write address value).1 value (· = address) := by
  have covers := Region.ofAddress_eq_iff.mp here
  rw [write, here]
  refine .of_region reads fun other => ?_
  rw [Region.ofAddress_eq_iff, Region.covers_iff single covers, UInt16.toNat_inj]

/-- The video memory keeps what is written unless the screen locks it. -/
theorem stores_videoRam {address : Word} {offset : Fin 0x2000}
    (region : Region.ofAddress address = .videoRam offset) (value : Byte) :
    if board.lcd.enabled = false ∨ board.lcd.mode ≠ .transfer then
      board.Stores (board.write address value).1 value (· = address)
    else (board.write address value).1 = board := by
  simp only [← Lcd.vramAccessible_iff]
  split
  next accessible =>
    refine board.stores_of_single region trivial ?_
    simp only [writeRegion, Lcd.writeVram, if_pos accessible]
    exact board.readRegion_put_vram accessible offset value
  next locked =>
    rw [write, region]
    simp only [writeRegion, Lcd.writeVram, if_neg locked]

/-- So does the sprite table. -/
theorem stores_spriteTable {address : Word} {offset : Fin 0xA0}
    (region : Region.ofAddress address = .spriteTable offset) (value : Byte) :
    if board.lcd.enabled = false ∨ board.lcd.mode = .hblank ∨ board.lcd.mode = .vblank then
      board.Stores (board.write address value).1 value (· = address)
    else (board.write address value).1 = board := by
  simp only [← Lcd.oamAccessible_iff]
  split
  next accessible =>
    refine board.stores_of_single region trivial ?_
    simp only [writeRegion, Lcd.writeOam, if_pos accessible]
    exact board.readRegion_put_oam accessible offset value
  next locked =>
    rw [write, region]
    simp only [writeRegion, Lcd.writeOam, if_neg locked]

/-! ## Devices -/

theorem sameDevices_writeRam (offset : Fin 0x2000) (value : Byte) :
    board.SameDevices (board.modifyCartridge (·.writeRam offset value)) := by
  refine ⟨rfl, rfl, rfl, rfl, ?_, rfl, rfl, rfl, rfl, rfl, rfl⟩
  simp only [modifyCartridge, Option.map_map]
  exact congrArg (Option.map · board.cartridge)
    (funext fun cartridge => cartridge.blank_writeRam offset value)

/-- Writes to memories touch nothing else. -/
theorem sameDevices_writeRegion {region : Region} (memory : region.IsMemory) (value : Byte) :
    board.SameDevices (board.writeRegion region value).1 ∧
      (board.writeRegion region value).2 = [] := by
  cases region with
  | rom | device | interruptEnable => exact memory.elim
  | videoRam offset =>
      refine ⟨?_, rfl⟩
      simp only [writeRegion, Lcd.writeVram]
      split <;> constructor <;> rfl
  | spriteTable offset =>
      refine ⟨?_, rfl⟩
      simp only [writeRegion, Lcd.writeOam]
      split <;> constructor <;> rfl
  | cartridgeRam offset => exact ⟨board.sameDevices_writeRam offset value, rfl⟩
  | workRam | highRam | unused =>
      refine ⟨?_, rfl⟩
      constructor <;> rfl

/-- Every write to a memory reaches exactly one owner. For every board, address and value: a
write to work RAM is read at the address and where the same cell appears again; a write to high
RAM is read at the address; and so is one to the video memory or the sprite table while the
screen does not lock it, and otherwise the board is left as it is, as it is by a write to the
addresses without an owner. All other addresses read as before. A write to the RAM of the
cartridge is seen through its own window at most. No such write changes a device, a register,
the circuit of the cartridge or the overlay, and none reports an event. -/
theorem write_reaches_owner (address : Word) (value : Byte) :
    let after := (board.write address value).1
    let place := address.toNat
    (0xC000 ≤ place ∧ place ≤ 0xFDFF → board.Stores after value (SameCell address)) ∧
      (0xFF80 ≤ place ∧ place ≤ 0xFFFE → board.Stores after value (· = address)) ∧
      (0x8000 ≤ place ∧ place ≤ 0x9FFF →
        if board.lcd.enabled = false ∨ board.lcd.mode ≠ .transfer then
          board.Stores after value (· = address)
        else after = board) ∧
      (0xFE00 ≤ place ∧ place ≤ 0xFE9F →
        if board.lcd.enabled = false ∨ board.lcd.mode = .hblank ∨ board.lcd.mode = .vblank then
          board.Stores after value (· = address)
        else after = board) ∧
      (0xFEA0 ≤ place ∧ place ≤ 0xFEFF → after = board) ∧
      (0xA000 ≤ place ∧ place ≤ 0xBFFF → ∀ other : Word,
        ¬ (0xA000 ≤ other.toNat ∧ other.toNat ≤ 0xBFFF) →
          after.read other = board.read other) ∧
      (0x8000 ≤ place ∧ place ≤ 0xFEFF ∨ 0xFF80 ≤ place ∧ place ≤ 0xFFFE →
        board.SameDevices after ∧ (board.write address value).2 = []) := by
  intro after place
  have bound : place < 0x10000 := address.toNat_lt
  have here (region : Region) (covers : region.Covers place) :
      Region.ofAddress address = region := Region.ofAddress_eq_iff.mpr covers
  refine ⟨?work, ?high, ?video, ?sprites, ?nothing, ?cartridge, ?devices⟩
  case work =>
    rintro ⟨low, high⟩
    have region := here (.workRam ⟨place % 0x2000, by omega⟩) (by
      simp only [Region.Covers]
      omega)
    exact board.stores_workRam region value
  case high =>
    rintro ⟨low, high⟩
    have region := here (.highRam ⟨place - 0xFF80, by omega⟩) (by
      simp only [Region.Covers]
      omega)
    exact board.stores_of_single region trivial (board.readRegion_put_highRam _ value)
  case video =>
    rintro ⟨low, high⟩
    have region := here (.videoRam ⟨place - 0x8000, by omega⟩) (by
      simp only [Region.Covers]
      omega)
    exact board.stores_videoRam region value
  case sprites =>
    rintro ⟨low, high⟩
    have region := here (.spriteTable ⟨place - 0xFE00, by omega⟩) (by
      simp only [Region.Covers]
      omega)
    exact board.stores_spriteTable region value
  case nothing =>
    rintro ⟨low, high⟩
    have region := here .unused ⟨low, by omega⟩
    simp only [after, write, region, writeRegion]
  case cartridge =>
    rintro ⟨low, high⟩ other outside
    have region := here (.cartridgeRam ⟨place - 0xA000, by omega⟩) (by
      simp only [Region.Covers]
      omega)
    have elsewhere (offset : Fin 0x2000) : Region.ofAddress other ≠ .cartridgeRam offset := by
      intro window
      have covers := Region.ofAddress_eq_iff.mp window
      simp only [Region.Covers] at covers
      omega
    simp only [after, write, region, writeRegion]
    exact board.readRegion_writeRam _ value elsewhere
  case devices =>
    intro inside
    have memory : (Region.ofAddress address).IsMemory := by
      cases region : Region.ofAddress address with
      | rom | device | interruptEnable =>
          have covers := Region.ofAddress_eq_iff.mp region
          simp only [Region.Covers] at covers
          omega
      | _ => trivial
    exact board.sameDevices_writeRegion memory value

/-- A board that is drawing a line. -/
def drawing : Board := { lcd := { control := 0x80, mode := .transfer } }

/-- While a line is drawn, the second appearance of work RAM is written and the video memory
is not. -/
theorem write_reaches_owner_of_locked :
    0xC000 ≤ (0xE123 : Word).toNat ∧ (0xE123 : Word).toNat ≤ 0xFDFF ∧
      (drawing.write 0xE123 0x2A).1.read 0xC123 = 0x2A ∧
      0x8000 ≤ (0x8001 : Word).toNat ∧ (0x8001 : Word).toNat ≤ 0x9FFF ∧
      (drawing.write 0x8001 0x2A).1 = drawing := by
  have work : 0xC000 ≤ (0xE123 : Word).toNat ∧ (0xE123 : Word).toNat ≤ 0xFDFF := by decide
  have video : 0x8000 ≤ (0x8001 : Word).toNat ∧ (0x8001 : Word).toNat ≤ 0x9FFF := by decide
  have locked : ¬ (drawing.lcd.enabled = false ∨ drawing.lcd.mode ≠ .transfer) := by decide
  obtain ⟨stored, -⟩ := drawing.write_reaches_owner 0xE123 0x2A
  obtain ⟨-, -, kept, -⟩ := drawing.write_reaches_owner 0x8001 0x2A
  have unchanged := kept video
  rw [if_neg locked] at unchanged
  have echo : SameCell 0xE123 0xC123 := .inr (.inr ⟨by decide, by decide, by decide⟩)
  exact ⟨work.1, work.2, (stored work).found 0xC123 echo, video.1, video.2, unchanged⟩

end Board

end GameBoy
