import GameBoy.Proofs.Cartridge.Loading
import Mathlib.Data.List.Induction

/-!
# Banks and the writes before them

A circuit listens to windows of addresses, and each window keeps the value last
written there. These values alone say what the registers of a circuit hold, and so
which bank is behind an address: how often and in what order the program wrote is
forgotten. Where the image is made of whole banks, every address reads a byte of it.
-/

namespace GameBoy.Cartridge

/-- Writes into the ROM window, the earliest first. -/
abbrev RomWrites := List (RomAddress × Byte)

/-- The value last written at the addresses from `start` up to `stop`, or the one
that stands there at power-on. -/
def lastWritten (start stop : Nat) (atPowerOn : Byte) (writes : RomWrites) : Byte :=
  let inWindow := writes.filter fun write => start ≤ write.1.val ∧ write.1.val < stop
  (inWindow.getLast?.map (·.2)).getD atPowerOn

/-- The bank behind an address, told from the writes since power-on. -/
def bankAfter (kind : MapperKind) (writes : RomWrites) (address : RomAddress) : Nat :=
  match kind with
  | .romOnly | .unsupported _ => address.val / 0x4000
  | .mbc1 =>
    let low := lastWritten 0x2000 0x4000 1 writes &&& 0x1F
    let high := lastWritten 0x4000 0x6000 0 writes &&& 0x03
    if address.val < 0x4000 then
      if (lastWritten 0x6000 0x8000 0 writes).bit 0 then 32 * high.toNat else 0
    else 32 * high.toNat + if low = 0 then 1 else low.toNat
  | .mbc3 =>
    let low := lastWritten 0x2000 0x4000 1 writes &&& 0x7F
    if address.val < 0x4000 then 0
    else if low = 0 then 1 else low.toNat
  | .mbc5 =>
    let low := lastWritten 0x2000 0x3000 1 writes
    let high := lastWritten 0x3000 0x4000 0 writes &&& 0x01
    if address.val < 0x4000 then 0 else 256 * high.toNat + low.toNat

/-- A circuit after writes. -/
def Mapper.writeAll (mapper : Mapper) (writes : RomWrites) : Mapper :=
  writes.foldl (fun mapper write => mapper.write write.1 write.2) mapper

/-- The cartridge after writes into its ROM window. -/
def writeAll (cartridge : Cartridge) (writes : RomWrites) : Cartridge :=
  writes.foldl (fun cartridge write => cartridge.writeRom write.1 write.2) cartridge

@[simp] theorem lastWritten_nil (start stop : Nat) (atPowerOn : Byte) :
    lastWritten start stop atPowerOn [] = atPowerOn := rfl

/-- A write replaces what its own window keeps, and no other. -/
theorem lastWritten_concat (start stop : Nat) (atPowerOn : Byte) (writes : RomWrites)
    (address : RomAddress) (value : Byte) :
    lastWritten start stop atPowerOn (writes ++ [(address, value)]) =
      if start ≤ address.val ∧ address.val < stop then value
      else lastWritten start stop atPowerOn writes := by
  by_cases inside : start ≤ address.val ∧ address.val < stop
  · simp [lastWritten, inside]
  · simp only [lastWritten, List.filter_append, List.filter_cons, List.filter_nil, inside,
      decide_false, Bool.false_eq_true, if_false, List.append_nil]

/-! ## Registers -/

/-- The registers of the first circuit after writes. -/
theorem Mbc1.foldl_write (writes : RomWrites) :
    writes.foldl (fun registers write => Mbc1.write registers write.1 write.2) {} =
      { ramEnabled := enablesRam (lastWritten 0 0x2000 0 writes)
        low := nonzeroBank (lastWritten 0x2000 0x4000 1 writes &&& 0x1F)
        high := lastWritten 0x4000 0x6000 0 writes &&& 0x03
        advanced := (lastWritten 0x6000 0x8000 0 writes).bit 0 } := by
  induction writes using List.reverseRecOn with
  | nil => rfl
  | append_singleton writes write ih =>
      obtain ⟨address, value⟩ := write
      have inside := address.isLt
      rw [List.foldl_append, ih]
      simp only [List.foldl_cons, List.foldl_nil, Mbc1.write, lastWritten_concat]
      by_cases ram : address.val < 0x2000
      · simp (disch := omega) only [if_pos, if_neg]
      · by_cases low : address.val < 0x4000
        · simp (disch := omega) only [if_pos, if_neg]
        · by_cases high : address.val < 0x6000
          · simp (disch := omega) only [if_pos, if_neg]
          · simp (disch := omega) only [if_pos, if_neg]

/-- The registers of the third circuit after writes. -/
theorem Mbc3.foldl_write (writes : RomWrites) :
    writes.foldl (fun registers write => Mbc3.write registers write.1 write.2) {} =
      { ramEnabled := enablesRam (lastWritten 0 0x2000 0 writes)
        low := nonzeroBank (lastWritten 0x2000 0x4000 1 writes &&& 0x7F)
        ramSelect := lastWritten 0x4000 0x6000 0 writes } := by
  induction writes using List.reverseRecOn with
  | nil => rfl
  | append_singleton writes write ih =>
      obtain ⟨address, value⟩ := write
      rw [List.foldl_append, ih]
      simp only [List.foldl_cons, List.foldl_nil, Mbc3.write, lastWritten_concat]
      by_cases ram : address.val < 0x2000
      · simp (disch := omega) only [if_pos, if_neg]
      · by_cases low : address.val < 0x4000
        · simp (disch := omega) only [if_pos, if_neg]
        · by_cases select : address.val < 0x6000
          · simp (disch := omega) only [if_pos, if_neg]
          · simp (disch := omega) only [if_neg]

/-- The registers of the fifth circuit after writes. -/
theorem Mbc5.foldl_write (rumble : Bool) (writes : RomWrites) :
    writes.foldl (fun registers write => Mbc5.write registers write.1 write.2) { rumble } =
      { ramEnabled := enablesRam (lastWritten 0 0x2000 0 writes)
        low := lastWritten 0x2000 0x3000 1 writes
        high := lastWritten 0x3000 0x4000 0 writes &&& 0x01
        ramBank := lastWritten 0x4000 0x6000 0 writes &&& Mbc5.ramBits { rumble }
        rumble } := by
  induction writes using List.reverseRecOn with
  | nil => cases rumble <;> rfl
  | append_singleton writes write ih =>
      obtain ⟨address, value⟩ := write
      rw [List.foldl_append, ih]
      simp only [List.foldl_cons, List.foldl_nil, Mbc5.write, lastWritten_concat, Mbc5.ramBits]
      by_cases ram : address.val < 0x2000
      · simp (disch := omega) only [if_pos, if_neg]
      · by_cases low : address.val < 0x3000
        · simp (disch := omega) only [if_pos, if_neg]
        · by_cases high : address.val < 0x4000
          · simp (disch := omega) only [if_pos, if_neg]
          · by_cases bank : address.val < 0x6000
            · simp (disch := omega) only [if_pos, if_neg]
            · simp (disch := omega) only [if_neg]

/-! ## Banks -/

theorem toNat_nonzeroBank (value : Byte) :
    (nonzeroBank value).toNat = if value = 0 then 1 else value.toNat := by
  unfold nonzeroBank
  split <;> rfl

namespace Mapper

theorem writeAll_fixed (writes : RomWrites) : fixed.writeAll writes = fixed := by
  induction writes with
  | nil => rfl
  | cons write writes ih => exact ih

theorem writeAll_mbc1 (registers : Mbc1) (writes : RomWrites) :
    (mbc1 registers).writeAll writes =
      mbc1 (writes.foldl (fun registers write => registers.write write.1 write.2) registers) :=
  List.foldl_hom mbc1 fun _ _ => rfl

theorem writeAll_mbc3 (registers : Mbc3) (writes : RomWrites) :
    (mbc3 registers).writeAll writes =
      mbc3 (writes.foldl (fun registers write => registers.write write.1 write.2) registers) :=
  List.foldl_hom mbc3 fun _ _ => rfl

theorem writeAll_mbc5 (registers : Mbc5) (writes : RomWrites) :
    (mbc5 registers).writeAll writes =
      mbc5 (writes.foldl (fun registers write => registers.write write.1 write.2) registers) :=
  List.foldl_hom mbc5 fun _ _ => rfl

/-- After writes a circuit chooses the bank that they tell. -/
theorem romBank_writeAll (header : Header) (writes : RomWrites) (address : RomAddress) :
    ((ofHeader header).writeAll writes).romBank address =
      bankAfter header.mapper writes address := by
  unfold ofHeader
  cases header.mapper with
  | romOnly | unsupported cartridgeType =>
      simp only [writeAll_fixed]
      rfl
  | mbc1 =>
      simp only [writeAll_mbc1, Mbc1.foldl_write, romBank, Mbc1.romBank, toNat_nonzeroBank]
      rfl
  | mbc3 =>
      simp only [writeAll_mbc3, Mbc3.foldl_write, romBank, Mbc3.romBank, toNat_nonzeroBank]
      rfl
  | mbc5 =>
      simp only [writeAll_mbc5, Mbc5.foldl_write]
      rfl

end Mapper

/-- Writes into the ROM window reach the circuit only. -/
theorem writeAll_eq (cartridge : Cartridge) (writes : RomWrites) :
    cartridge.writeAll writes =
      { cartridge with mapper := cartridge.mapper.writeAll writes } := by
  induction writes generalizing cartridge with
  | nil => rfl
  | cons write writes ih => exact ih (cartridge.writeRom write.1 write.2)

/-- Bank numbers wrap at the banks of an image that is made of whole ones. -/
theorem romIndex_of_whole {cartridge : Cartridge} {count : Nat} (some_banks : 0 < count)
    (whole : cartridge.rom.size = count * 0x4000) (address : RomAddress) :
    cartridge.romIndex address =
      cartridge.mapper.romBank address % count * 0x4000 + address.val % 0x4000 := by
  have banks : cartridge.romBanks = count := by
    rw [romBanks, whole, romBankSize, Nat.mul_div_cancel _ (by decide), Nat.max_eq_left some_banks]
  rw [romIndex, banks]
  rfl

/-- A place in one of the banks is a place in the image. -/
theorem place_lt {count size : Nat} (some_banks : 0 < count) (whole : size = count * 0x4000)
    (bank : Nat) (address : RomAddress) :
    bank % count * 0x4000 + address.val % 0x4000 < size := by
  have wrapped := Nat.mod_lt bank some_banks
  have within := Nat.mod_lt address.val (by decide : 0 < 0x4000)
  omega

/-- The first circuit never puts a multiple of 32 behind the upper half. -/
theorem not_dvd_bankAfter_mbc1 (writes : RomWrites) {address : RomAddress}
    (upper : 0x4000 ≤ address.val) : ¬32 ∣ bankAfter .mbc1 writes address := by
  have short : (lastWritten 0x2000 0x4000 1 writes &&& 0x1F).toNat < 32 := by
    rw [UInt8.toNat_and]
    exact Nat.and_lt_two_pow _ (by decide : (0x1F : Byte).toNat < 2 ^ 5)
  simp only [bankAfter, if_neg (Nat.not_lt.mpr upper)]
  split
  next => omega
  next nonzero =>
    have positive : (lastWritten 0x2000 0x4000 1 writes &&& 0x1F).toNat ≠ 0 := by
      intro zero
      exact nonzero (UInt8.toNat_inj.mp zero)
    omega

/-- The circuit that the header of an image names, after writes. -/
theorem romBank_ofImage {image : Image} (long : headerEnd ≤ image.size) (writes : RomWrites)
    (address : RomAddress) :
    ((ofImage image long).writeAll writes).mapper.romBank address =
      bankAfter (.ofType (image.getD 0x147 0)) writes address := by
  have inside : 0x147 < image.size := Nat.lt_of_lt_of_le (by decide) long
  have named : (Header.ofImage image long).mapper = .ofType (image.getD 0x147 0) := by
    simp only [Array.getD, inside, dif_pos]
    rfl
  rw [writeAll_eq, ← named]
  exact Mapper.romBank_writeAll (Header.ofImage image long) writes address

/-- A cartridge is loaded from every image of whole banks. Whatever was written since,
each address of the ROM window reads the byte of the image that lies in the bank told
by the writes; this byte is always there. Behind the upper half the first circuit
never puts a multiple of 32. -/
theorem readRom_writeAll {image : Image} {count : Nat} (some_banks : 0 < count)
    (whole : image.size = count * 0x4000) :
    let kind := MapperKind.ofType (image.getD 0x147 0)
    ∃ cartridge events, load image = .ok (cartridge, events) ∧
      ∀ (writes : RomWrites) (address : RomAddress),
        let bank := bankAfter kind writes address
        (∃ _ : bank % count * 0x4000 + address.val % 0x4000 < image.size,
          (cartridge.writeAll writes).readRom address =
            image[bank % count * 0x4000 + address.val % 0x4000]) ∧
        (kind = .mbc1 → 0x4000 ≤ address.val → ¬32 ∣ bank) := by
  have long : headerEnd ≤ image.size := by
    rw [whole]
    exact Nat.le_trans (by decide) (Nat.mul_le_mul_right 0x4000 some_banks)
  refine ⟨ofImage image long, _, load_of_long long, fun writes address => ⟨?_, ?_⟩⟩
  · have rom : ((ofImage image long).writeAll writes).rom = image := by
      rw [writeAll_eq]
      rfl
    have place := romIndex_of_whole some_banks (rom ▸ whole) address
    rw [romBank_ofImage long] at place
    have inside := place_lt some_banks whole
      (bankAfter (.ofType (image.getD 0x147 0)) writes address) address
    refine ⟨inside, ?_⟩
    rw [readRom, place, rom, Array.getElem?_eq_getElem inside]
    rfl
  · intro first upper
    rw [first]
    exact not_dvd_bankAfter_mbc1 writes upper

/-- Three banks with the first circuit, in which each byte but the cartridge type is
the number of its bank. -/
def threeBanks : Image :=
  Array.ofFn fun place : Fin 0xC000 =>
    if place.val = 0x147 then 0x01 else UInt8.ofNat (place.val / 0x4000)

/-- With three banks, selecting the fifth puts the second behind the upper half. -/
theorem readRom_of_three_banks :
    0 < 3 ∧ threeBanks.size = 3 * 0x4000 ∧
      ∃ cartridge events, load threeBanks = .ok (cartridge, events) ∧
        (cartridge.writeAll [(0x2000, 5)]).readRom 0x4000 = 2 := by
  have whole : threeBanks.size = 3 * 0x4000 := Array.size_ofFn
  have cell (place : Nat) (inside : place < threeBanks.size) : threeBanks[place] =
      if place = 0x147 then 0x01 else UInt8.ofNat (place / 0x4000) :=
    Array.getElem_ofFn inside
  have named : threeBanks.getD 0x147 0 = 0x01 := by
    rw [Array.getD, dif_pos (by rw [whole]; decide)]
    exact cell 0x147 _
  have bank : bankAfter (.ofType (threeBanks.getD 0x147 0)) [(0x2000, 5)] 0x4000 = 5 := by
    rw [named]
    decide
  obtain ⟨cartridge, events, loaded, reads⟩ := readRom_writeAll (by decide : 0 < 3) whole
  obtain ⟨⟨_, byte⟩, -⟩ := reads [(0x2000, 5)] 0x4000
  refine ⟨by decide, whole, cartridge, events, loaded, byte.trans ?_⟩
  rw [cell, bank]
  rfl

end GameBoy.Cartridge
