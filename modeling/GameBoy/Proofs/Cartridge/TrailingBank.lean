import GameBoy.Proofs.Cartridge.Banking

/-!
# Images that break off inside a bank

An image need not be made of whole banks. Only whole banks are counted, so a bank in which the
image breaks off is wrapped away: the bytes that it has are hidden behind those of the first
bank. The one exception is an image without a whole bank, which counts as one. Every other byte
of an image is read where its bank is selected.
-/

namespace GameBoy.Cartridge

/-- The image has whole banks, and this is the one after them. -/
def BreaksOffIn (image : Image) (bank : Nat) : Prop :=
  0 < image.size / 0x4000 ∧ bank = image.size / 0x4000

instance (image : Image) (bank : Nat) : Decidable (BreaksOffIn image bank) :=
  inferInstanceAs (Decidable (_ ∧ _))

variable {image : Image} {bank offset : Nat} {cartridge : Cartridge} {address : RomAddress}

/-- Bytes lie in the banks that are counted, and in the one that the image breaks off in. -/
theorem lt_or_breaksOffIn (present : bank * 0x4000 + offset < image.size) :
    bank < max (image.size / 0x4000) 1 ∨ BreaksOffIn image bank := by
  unfold BreaksOffIn
  omega

theorem mod_eq_zero_of_breaksOffIn (broken : BreaksOffIn image bank) :
    bank % max (image.size / 0x4000) 1 = 0 := by
  obtain ⟨whole, rfl⟩ := broken
  rw [Nat.max_eq_left whole, Nat.mod_self]

/-- Where the byte behind an address lies, if the address stands for a byte of the image. -/
theorem romIndex_of_present
    (present : cartridge.mapper.romBank address * 0x4000 + address.val % 0x4000 <
      cartridge.rom.size) :
    cartridge.romIndex address =
      if BreaksOffIn cartridge.rom (cartridge.mapper.romBank address) then address.val % 0x4000
      else cartridge.mapper.romBank address * 0x4000 + address.val % 0x4000 := by
  unfold romIndex romBanks romBankSize
  split
  next broken => rw [mod_eq_zero_of_breaksOffIn broken, Nat.zero_mul, Nat.zero_add]
  next unbroken =>
    have counted := (lt_or_breaksOffIn present).resolve_right unbroken
    rw [Nat.mod_eq_of_lt counted]

/-- An address that stands for a byte of the image reads this byte, unless the image breaks off
in its bank: then it reads the byte of the first bank that stands at the same place. -/
theorem getElem?_of_present (cartridge : Cartridge) (address : RomAddress)
    (present : cartridge.mapper.romBank address * 0x4000 + address.val % 0x4000 <
      cartridge.rom.size) :
    cartridge.rom[
        if BreaksOffIn cartridge.rom (cartridge.mapper.romBank address) then
          address.val % 0x4000
        else cartridge.mapper.romBank address * 0x4000 + address.val % 0x4000]? =
      some (cartridge.readRom address) := by
  rw [readRom, ← romIndex_of_present present]
  have inside : cartridge.romIndex address < cartridge.rom.size := by
    rw [romIndex_of_present present]
    split
    · exact Nat.lt_of_le_of_lt (Nat.le_add_left _ _) present
    · exact present
  rw [Array.getElem?_eq_getElem inside, Option.getD_some]

theorem rom_ofImage (long : headerEnd ≤ image.size) : (ofImage image long).rom = image := rfl

/-- Without a circuit the window shows the start of the image, whatever was written. -/
theorem romBank_of_no_circuit (long : headerEnd ≤ image.size)
    (unbanked : (Header.ofImage image long).mapper = .romOnly ∨
      ∃ kind, (Header.ofImage image long).mapper = .unsupported kind)
    (writes : RomWrites) (address : RomAddress) :
    ((ofImage image long).writeAll writes).mapper.romBank address =
      address.val / 0x4000 := by
  rw [writeAll_eq]
  change ((Mapper.ofHeader (Header.ofImage image long)).writeAll writes).romBank address = _
  rw [Mapper.romBank_writeAll]
  rcases unbanked with kind | ⟨_, kind⟩ <;> rw [kind] <;> rfl

/-- In the ROM window an image breaks off only between the first bank and the second. -/
theorem breaksOffIn_half_iff (inside : address.val < image.size) :
    BreaksOffIn image (address.val / 0x4000) ↔
      0x4000 ≤ address.val ∧ image.size < 0x8000 := by
  have window := address.isLt
  unfold BreaksOffIn
  omega

/-- What the ROM window of a loaded cartridge shows of its image. Whatever the circuit and its
registers, an address whose place in the selected bank is in the image reads the byte there;
only where that bank is the one that the image breaks off in, it reads the first bank instead.
So without a circuit each address reads the byte at the same place of the image, or, if the
image ends between the first bank and the second, the byte one bank before. -/
theorem readRom_of_load {events : List Event}
    (loaded : load image = .ok (cartridge, events)) :
    (∀ (mapper : Mapper) (address : RomAddress),
      let bank := mapper.romBank address
      let place := bank * 0x4000 + address.val % 0x4000
      place < image.size →
        image[if BreaksOffIn image bank then address.val % 0x4000 else place]? =
          some (({ cartridge with mapper } : Cartridge).readRom address)) ∧
    (cartridge.header.mapper = .romOnly ∨
        (∃ kind, cartridge.header.mapper = .unsupported kind) →
      ∀ (writes : RomWrites) (address : RomAddress), address.val < image.size →
        image[if 0x4000 ≤ address.val ∧ image.size < 0x8000 then address.val - 0x4000
          else address.val]? = some ((cartridge.writeAll writes).readRom address)) := by
  obtain ⟨long, rfl⟩ := eq_ofImage_of_load loaded
  constructor
  · intro mapper address bank place present
    exact getElem?_of_present { ofImage image long with mapper } address present
  · intro unbanked writes address inside
    have bank := romBank_of_no_circuit long unbanked writes address
    have rom : ((ofImage image long).writeAll writes).rom = image := by
      rw [writeAll_eq]
      exact rom_ofImage long
    have place := Nat.div_add_mod' address.val 0x4000
    have shown := getElem?_of_present ((ofImage image long).writeAll writes) address
      (by rw [bank, rom, place]; exact inside)
    rw [bank, rom, place, if_congr (breaksOffIn_half_iff inside) rfl rfl] at shown
    by_cases broken : 0x4000 ≤ address.val ∧ image.size < 0x8000
    · have window := address.isLt
      have offset : address.val - 0x4000 = address.val % 0x4000 := by omega
      rw [if_pos broken] at shown ⊢
      rw [offset, shown]
    · rw [if_neg broken] at shown ⊢
      exact shown

/-- An image without a circuit in which each byte is the number of its bank. -/
def numbered (size : Nat) : Image :=
  Array.ofFn fun place : Fin size => UInt8.ofNat (place.val / 0x4000)

theorem getElem?_numbered {place size : Nat} (inside : place < size) :
    (numbered size)[place]? = some (UInt8.ofNat (place / 0x4000)) := by
  rw [numbered, Array.getElem?_ofFn, dif_pos inside]

theorem mapper_numbered {size : Nat} (long : headerEnd ≤ (numbered size).size) :
    (Header.ofImage (numbered size) long).mapper = .romOnly := by
  have inside : 0x147 < size := by
    rw [numbered, Array.size_ofFn] at long
    exact Nat.lt_of_lt_of_le (by decide) long
  have kind : (Header.ofImage (numbered size) long).cartridgeType = 0 :=
    (Array.getElem?_eq_some_iff.mp (getElem?_numbered inside)).2
  rw [Header.mapper, kind]
  rfl

/-- An image of two banks and a quarter: the first circuit shows the second bank when that is
selected, and the first one in place of the quarter; without a circuit the second is shown. -/
theorem readRom_of_load_of_quarter :
    ∃ cartridge events, load (numbered 0x9000) = .ok (cartridge, events) ∧
      ({ cartridge with mapper := .mbc1 { low := 1 } } : Cartridge).readRom 0x4000 = 1 ∧
      ({ cartridge with mapper := .mbc1 { low := 2 } } : Cartridge).readRom 0x4000 = 0 ∧
      cartridge.header.mapper = .romOnly ∧
      (cartridge.writeAll [(0x2000, 2)]).readRom 0x4000 = 1 := by
  have size : (numbered 0x9000).size = 0x9000 := Array.size_ofFn
  have long : headerEnd ≤ (numbered 0x9000).size := by
    rw [size]
    decide
  have loaded := load_of_long long
  obtain ⟨banked, unbanked⟩ := readRom_of_load loaded
  have kind : (ofImage (numbered 0x9000) long).header.mapper = .romOnly := mapper_numbered long
  refine ⟨_, _, loaded, ?_, ?_, kind, ?_⟩
  · have shown := banked (.mbc1 { low := 1 }) 0x4000 (by rw [size]; decide)
    rw [if_neg (by rw [BreaksOffIn, size]; decide), getElem?_numbered (by decide)] at shown
    exact (Option.some.inj shown).symm
  · have shown := banked (.mbc1 { low := 2 }) 0x4000 (by rw [size]; decide)
    rw [if_pos (by rw [BreaksOffIn, size]; decide), getElem?_numbered (by decide)] at shown
    exact (Option.some.inj shown).symm
  · have shown := unbanked (.inl kind) [(0x2000, 2)] 0x4000 (by rw [size]; decide)
    rw [if_neg (by rw [size]; decide), getElem?_numbered (by decide)] at shown
    exact (Option.some.inj shown).symm

/-- An image of one byte more than a bank: this byte lies in the bank that is selected, at the
place of the address, and is not read there. -/
theorem one_byte_more_is_hidden :
    ∃ cartridge events, load (numbered 0x4001) = .ok (cartridge, events) ∧
      cartridge.header.mapper = .romOnly ∧ cartridge.mapper.romBank 0x4000 = 1 ∧
        (numbered 0x4001)[1 * 0x4000 + (0x4000 : RomAddress).val % 0x4000]? = some 1 ∧
          cartridge.readRom 0x4000 = 0 := by
  have size : (numbered 0x4001).size = 0x4001 := Array.size_ofFn
  have long : headerEnd ≤ (numbered 0x4001).size := by
    rw [size]
    decide
  have kind : (Header.ofImage (numbered 0x4001) long).mapper = .romOnly := mapper_numbered long
  have bank : (ofImage (numbered 0x4001) long).mapper.romBank 0x4000 = 1 :=
    romBank_of_no_circuit long (.inl kind) [] 0x4000
  have place : 1 * 0x4000 + (0x4000 : RomAddress).val % 0x4000 = 0x4000 := by decide
  have byte : (numbered 0x4001)[0x4000]? = some 1 := getElem?_numbered (by decide)
  refine ⟨_, _, load_of_long long, kind, bank, place ▸ byte, ?_⟩
  have rom : (ofImage (numbered 0x4001) long).rom = numbered 0x4001 := rom_ofImage long
  have shown := getElem?_of_present (ofImage (numbered 0x4001) long) 0x4000
    (by rw [bank, rom, size, place]; decide)
  rw [bank, rom, if_pos (by rw [BreaksOffIn, size]; decide), getElem?_numbered (by decide)]
    at shown
  exact (Option.some.inj shown).symm

end GameBoy.Cartridge
