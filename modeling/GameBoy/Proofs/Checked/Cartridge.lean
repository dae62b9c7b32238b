import GameBoy.Cartridge
import GameBoy.Proofs.Checked.Number

/-!
# Cartridges with checked operations

A bank number is reduced by the number of banks and turned into an index, which
is then looked up with a default. A header is cut out of an image that is long
enough, and saved RAM is copied between slices of equal length. The cartridge
whose indices and slices are checked does what the cartridge does, whatever the
image and whatever the registers of its circuit hold.
-/

namespace GameBoy.Cartridge

open Checked

section Definitions

variable (cartridge : Cartridge)

/-- Position in the image of the byte behind an address. -/
def checkedRomIndex (address : RomAddress) : Option Nat := do
  let bank ← remainder? (cartridge.mapper.romBank address) cartridge.romBanks
  let start ← product? 32 bank romBankSize
  sum? 32 start (address.val % romBankSize)

/-- Read the ROM window. -/
def checkedReadRom (address : RomAddress) : Option Byte := do
  let index ← cartridge.checkedRomIndex address
  pure (cartridge.rom[index]?.getD openBus)

/-- Position in the RAM of the cell behind an address, in a bank. -/
def checkedRamPlace (bank : Nat) (address : RamAddress) : Option Nat := do
  let bank ← remainder? bank cartridge.ramBanks
  let start ← product? 32 bank ramBankSize
  sum? 32 start address.val

/-- Position in the RAM of the cell behind an address, if one is connected. -/
def checkedRamIndex (address : RamAddress) : Option (Option Nat) :=
  match cartridge.mapper.ramBank? with
  | none => pure none
  | some bank =>
    if cartridge.ramBanks = 0 then pure none
    else do
      let index ← cartridge.checkedRamPlace bank address
      pure (some index)

/-- Read the RAM window. -/
def checkedReadRam (address : RamAddress) : Option Byte := do
  match ← cartridge.checkedRamIndex address with
  | none => pure openBus
  | some index => pure (cartridge.ram[index]?.getD openBus)

/-- Write the RAM window. -/
def checkedWriteRam (address : RamAddress) (value : Byte) : Option Cartridge := do
  match ← cartridge.checkedRamIndex address with
  | none => pure cartridge
  | some index => pure { cartridge with ram := cartridge.ram.setIfInBounds index value }

/-- Copy the start of saved RAM over the start of the RAM. -/
def checkedLoadRam (data : Array Byte) : Option Cartridge := do
  let length := min data.size cartridge.ram.size
  let target ← slice? cartridge.ram 0 length
  let source ← slice? data 0 length
  if source.size = target.size then
    pure { cartridge with ram := source ++ cartridge.ram.extract length cartridge.ram.size }
  else none

end Definitions

/-- The header of an image. -/
def checkedHeader (image : Image) : Option Header := do
  let field ← slice? image 0x134 0x144
  let title ← slice? field 0 (field.toList.findIdx (· == 0))
  let cartridgeType ← image[0x147]?
  let romSizeCode ← image[0x148]?
  let ramSizeCode ← image[0x149]?
  let checksum ← image[0x14D]?
  let high ← image[0x14E]?
  let lowPlace ← sum? 32 0x14E 1
  let low ← image[lowPlace]?
  pure {
    title := String.ofList (Text.trimEnd (Text.decodeUtf8 title.toList))
    cartridgeType, romSizeCode, ramSizeCode, checksum
    globalChecksum := Word.ofBytes high low }

/-- The cartridge of an image. -/
def checkedOfImage (image : Image) : Option Cartridge := do
  let header ← checkedHeader image
  let size ← product? 32 header.ramBanks ramBankSize
  pure { header, rom := image, ram := Array.replicate size 0xFF, mapper := .ofHeader header }

/-- Load an image. -/
def checkedLoad (image : Image) : Option (Except LoadError (Cartridge × List Event)) :=
  if image.isEmpty then pure (.error .emptyCartridge)
  else if headerEnd ≤ image.size then do
    let cartridge ← checkedOfImage image
    pure (.ok (cartridge, loadEvents cartridge.header image))
  else pure (.error (.shortCartridge image.size))

/-! ## Banks -/

theorem romBank_lt (mapper : Mapper) (address : RomAddress) :
    mapper.romBank address < 2 ^ 16 := by
  have inside : address.val < 0x8000 := address.isLt
  cases mapper with
  | fixed => exact Nat.lt_of_le_of_lt (Nat.div_le_self _ _) (by omega)
  | mbc1 registers =>
      have := registers.high.toNat_lt
      have := registers.low.toNat_lt
      simp only [Mapper.romBank, Mbc1.romBank]
      split
      · split <;> omega
      · omega
  | mbc3 registers =>
      have := registers.low.toNat_lt
      simp only [Mapper.romBank, Mbc3.romBank]
      split <;> omega
  | mbc5 registers =>
      have := registers.high.toNat_lt
      have := registers.low.toNat_lt
      simp only [Mapper.romBank, Mbc5.romBank]
      split <;> omega

theorem ramBank_lt {mapper : Mapper} {bank : Nat} (selected : mapper.ramBank? = some bank) :
    bank < 2 ^ 8 := by
  cases mapper with
  | fixed =>
      cases selected
      decide
  | mbc1 registers =>
      have := registers.high.toNat_lt
      simp only [Mapper.ramBank?, Option.ite_none_right_eq_some, Mbc1.ramBank,
        Option.some_inj] at selected
      rw [← selected.2]
      split <;> omega
  | mbc3 registers =>
      have := registers.ramSelect.toNat_lt
      simp only [Mapper.ramBank?, Option.ite_none_right_eq_some, Mbc3.ramBank?,
        Option.some_inj] at selected
      omega
  | mbc5 registers =>
      have := registers.ramBank.toNat_lt
      simp only [Mapper.ramBank?, Option.ite_none_right_eq_some, Option.some_inj] at selected
      omega

variable (cartridge : Cartridge)

theorem checkedRomIndex_eq (address : RomAddress) :
    cartridge.checkedRomIndex address = some (cartridge.romIndex address) := by
  have number := romBank_lt cartridge.mapper address
  have banks : 0 < cartridge.romBanks := Nat.lt_of_lt_of_le Nat.one_pos (Nat.le_max_right _ _)
  have reduced := Nat.mod_le (cartridge.mapper.romBank address) cartridge.romBanks
  have within : address.val % romBankSize < 0x4000 := Nat.mod_lt _ (by decide)
  have size : romBankSize = 0x4000 := rfl
  rw [checkedRomIndex, remainder?_of_pos banks, Option.bind_eq_bind, Option.bind_some,
    product?_of_lt (by rw [size]; omega), Option.bind_some,
    sum?_of_lt (by rw [size] at within ⊢; omega)]
  rfl

theorem checkedReadRom_eq (address : RomAddress) :
    cartridge.checkedReadRom address = some (cartridge.readRom address) := by
  rw [checkedReadRom, checkedRomIndex_eq]
  rfl

theorem checkedRamPlace_eq {bank : Nat} (number : bank < 2 ^ 8)
    (banks : 0 < cartridge.ramBanks) (address : RamAddress) :
    cartridge.checkedRamPlace bank address =
      some (bank % cartridge.ramBanks * ramBankSize + address.val) := by
  have reduced := Nat.mod_le bank cartridge.ramBanks
  have within : address.val < 0x2000 := address.isLt
  have size : ramBankSize = 0x2000 := rfl
  rw [checkedRamPlace, remainder?_of_pos banks, Option.bind_eq_bind, Option.bind_some,
    product?_of_lt (by rw [size]; omega), Option.bind_some,
    sum?_of_lt (by rw [size]; omega)]

theorem checkedRamIndex_eq (address : RamAddress) :
    cartridge.checkedRamIndex address = some (cartridge.ramIndex? address) := by
  rw [checkedRamIndex, ramIndex?]
  cases selected : cartridge.mapper.ramBank? with
  | none => rfl
  | some bank =>
      simp only
      split
      next => rfl
      next some_banks =>
        rw [cartridge.checkedRamPlace_eq (ramBank_lt selected) (Nat.pos_of_ne_zero some_banks)]
        rfl

theorem checkedReadRam_eq (address : RamAddress) :
    cartridge.checkedReadRam address = some (cartridge.readRam address) := by
  rw [checkedReadRam, readRam, checkedRamIndex_eq, Option.bind_eq_bind, Option.bind_some]
  cases cartridge.ramIndex? address with
  | none => rfl
  | some index => rfl

theorem checkedWriteRam_eq (address : RamAddress) (value : Byte) :
    cartridge.checkedWriteRam address value = some (cartridge.writeRam address value) := by
  rw [checkedWriteRam, writeRam, checkedRamIndex_eq, Option.bind_eq_bind, Option.bind_some]
  cases cartridge.ramIndex? address with
  | none => rfl
  | some index => rfl

/-! ## Loading -/

/-- The start of the data up to either end, then what it leaves of the RAM. -/
theorem loadRam_eq_append (data : Array Byte) :
    data.extract 0 (min data.size cartridge.ram.size) ++
        cartridge.ram.extract (min data.size cartridge.ram.size) cartridge.ram.size =
      (cartridge.loadRam data).ram := by
  simp only [loadRam]
  rcases Nat.le_total data.size cartridge.ram.size with short | long
  · rw [Nat.min_eq_left short, Array.extract_eq_self_of_le (Nat.le_refl _),
      Array.extract_eq_self_of_le short]
  · rw [Nat.min_eq_right long, Array.extract_empty_of_stop_le_start (Nat.le_refl _),
      Array.extract_empty_of_stop_le_start long]

theorem checkedLoadRam_eq (data : Array Byte) :
    cartridge.checkedLoadRam data = some (cartridge.loadRam data) := by
  simp only [checkedLoadRam, slice?_of_le (Nat.zero_le _) (Nat.min_le_right _ _),
    slice?_of_le (Nat.zero_le _) (Nat.min_le_left _ _), Option.bind_eq_bind, Option.bind_some,
    loadRam_eq_append]
  rw [if_pos (by simp)]
  rfl

/-- The title ends where its first zero byte is. -/
theorem toList_title (field : Array Byte) :
    (field.extract 0 (field.toList.findIdx (· == 0))).toList =
      field.toList.takeWhile (· != 0) := by
  have first_zero : (fun byte : Byte => !(byte != 0)) = (· == 0) := by
    funext byte
    exact Bool.not_not (byte == 0)
  rw [Array.toList_extract, List.takeWhile_eq_take_findIdx_not, first_zero]
  rfl

theorem checkedHeader_eq {image : Image} (long : headerEnd ≤ image.size) :
    checkedHeader image = some (Header.ofImage image long) := by
  have long : 0x150 ≤ image.size := long
  have cell {place : Nat} (inside : place < 0x150) :
      image[place]? = some image[place] := Array.getElem?_eq_getElem (by omega)
  have stop : (image.extract 0x134 0x144).toList.findIdx (· == 0) ≤
      (image.extract 0x134 0x144).size := List.findIdx_le_length
  simp only [checkedHeader, Option.bind_eq_bind]
  rw [slice?_of_le (by decide) (by omega), Option.bind_some,
    slice?_of_le (Nat.zero_le _) stop]
  simp (disch := decide) only [cell, sum?_of_lt, toList_title, Option.bind_some]
  rfl

theorem checkedOfImage_eq {image : Image} (long : headerEnd ≤ image.size) :
    checkedOfImage image = some (ofImage image long) := by
  have banks (header : Header) : header.ramBanks * ramBankSize < 2 ^ 32 := by
    have most : header.ramBanks ≤ 16 := by
      unfold Header.ramBanks
      repeat' split
      all_goals decide
    exact Nat.lt_of_le_of_lt (Nat.mul_le_mul_right _ most) (by decide)
  rw [checkedOfImage, checkedHeader_eq long, Option.bind_eq_bind, Option.bind_some,
    product?_of_lt (banks _)]
  rfl

/-- Every image is either rejected or loaded. -/
theorem checkedLoad_eq (image : Image) : checkedLoad image = some (load image) := by
  rw [checkedLoad, load]
  by_cases empty : image.isEmpty = true
  · rw [if_pos empty, if_pos empty]
    rfl
  · rw [if_neg empty, if_neg empty]
    by_cases long : headerEnd ≤ image.size
    · rw [if_pos long, dif_pos long, checkedOfImage_eq long]
      rfl
    · rw [if_neg long, dif_neg long]
      rfl

end GameBoy.Cartridge
