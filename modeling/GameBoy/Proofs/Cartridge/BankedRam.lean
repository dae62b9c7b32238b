import GameBoy.Proofs.Cartridge.Banking

/-!
# Banked RAM

The RAM of a cartridge is made of cells, each at an offset of a bank. The writes into the
ROM window decide which cell stands behind an address of the RAM window, if any does. A
program stores into that cell, and a host restores the cells from the first one on; each
cell keeps what was stored in it last. So a history of actions says what every address
reads, however the banks were switched in between.
-/

namespace GameBoy.Cartridge

/-- A cell of the RAM. -/
structure RamCell where
  bank : Nat
  offset : RamAddress
  deriving DecidableEq, Repr

/-- Position of a cell in the RAM. -/
def RamCell.index (cell : RamCell) : Nat := cell.bank * 0x2000 + cell.offset.val

/-- What can happen to a cartridge: writes into its two windows, and a host that restores
its RAM. -/
inductive Action where
  | writeRom (address : RomAddress) (value : Byte)
  | writeRam (address : RamAddress) (value : Byte)
  | loadRam (data : Array Byte)

/-- The write into the ROM window that an action is, if it is one. -/
def Action.romWrite? : Action → Option (RomAddress × Byte)
  | .writeRom address value => some (address, value)
  | .writeRam _ _ | .loadRam _ => none

/-- The writes into the ROM window among some actions. -/
def romWrites (actions : List Action) : RomWrites := actions.filterMap Action.romWrite?

/-- The cartridge after an action. -/
def perform (cartridge : Cartridge) : Action → Cartridge
  | .writeRom address value => cartridge.writeRom address value
  | .writeRam address value => cartridge.writeRam address value
  | .loadRam data => cartridge.loadRam data

/-- The cartridge after some actions. -/
def performAll (cartridge : Cartridge) : List Action → Cartridge
  | [] => cartridge
  | action :: actions => (cartridge.perform action).performAll actions

/-- The RAM bank that a circuit selects, told from the writes since power-on; none while
the RAM is disabled or something else is selected. -/
def ramBankAfter? (header : Header) (writes : RomWrites) : Option Nat :=
  let enabled := lastWritten 0 0x2000 0 writes &&& 0x0F = 0x0A
  let select := lastWritten 0x4000 0x6000 0 writes
  match header.mapper with
  | .romOnly | .unsupported _ => some 0
  | .mbc1 =>
    let advanced := (lastWritten 0x6000 0x8000 0 writes).bit 0
    if enabled then some (if advanced then (select &&& 0x03).toNat else 0) else none
  | .mbc3 => if enabled ∧ select ≤ 3 then some select.toNat else none
  | .mbc5 =>
    let rumble := 0x1C ≤ header.cartridgeType ∧ header.cartridgeType ≤ 0x1E
    if enabled then some (select &&& if rumble then 0x07 else 0x0F).toNat else none

/-- The cell behind an address of the RAM window, told from the writes since power-on.
Bank numbers wrap at the banks there are. -/
def cellAfter? (header : Header) (writes : RomWrites) (address : RamAddress) :
    Option RamCell :=
  if header.ramBanks = 0 then none
  else (ramBankAfter? header writes).map fun bank => ⟨bank % header.ramBanks, address⟩

/-- The value that was stored last in a cell, by actions that follow on writes into the
ROM window. -/
def lastStored? (header : Header) (cell : RamCell) (writes : RomWrites) :
    List Action → Option Byte
  | [] => none
  | .writeRom address value :: later =>
    lastStored? header cell (writes ++ [(address, value)]) later
  | .writeRam address value :: later =>
    (lastStored? header cell writes later).or
      (if cellAfter? header writes address = some cell then some value else none)
  | .loadRam data :: later =>
    (lastStored? header cell writes later).or data[cell.index]?

/-! ## Cells -/

/-- Different cells lie at different places. -/
theorem RamCell.index_inj {first second : RamCell} :
    first.index = second.index ↔ first = second := by
  obtain ⟨bank, offset, inside⟩ := first
  obtain ⟨otherBank, otherOffset, otherInside⟩ := second
  simp only [index, RamCell.mk.injEq, Fin.mk.injEq]
  omega

/-- The cells of the banks fill the RAM. -/
theorem RamCell.index_lt {cell : RamCell} {banks : Nat} (inside : cell.bank < banks) :
    cell.index < banks * 0x2000 := by
  have offset := cell.offset.isLt
  simp only [index]
  omega

theorem bank_lt_of_cellAfter? {header : Header} {writes : RomWrites} {address : RamAddress}
    {cell : RamCell} (behind : cellAfter? header writes address = some cell) :
    cell.bank < header.ramBanks := by
  unfold cellAfter? at behind
  split at behind
  next => exact nomatch behind
  next some_banks =>
    obtain ⟨bank, -, rfl⟩ := Option.map_eq_some_iff.mp behind
    exact Nat.mod_lt bank (Nat.pos_of_ne_zero some_banks)

/-- Restoring the RAM replaces its start, as far as both the data and the RAM go. -/
theorem getElem?_loadRam (cartridge : Cartridge) (data : Array Byte) (place : Nat) :
    (cartridge.loadRam data).ram[place]? =
      if place < min data.size cartridge.ram.size then data[place]?
      else cartridge.ram[place]? := by
  simp only [loadRam, Array.getElem?_append, Array.size_extract, Array.getElem?_extract,
    Nat.sub_zero, Nat.zero_add]
  by_cases replaced : place < min data.size cartridge.ram.size
  · simp only [Nat.min_comm, replaced, if_true]
  · simp only [Nat.min_comm, replaced, if_false, Nat.min_self]
    by_cases within : place < cartridge.ram.size
    · -- What is kept stands where it stood.
      have kept : data.size + (place - min data.size cartridge.ram.size) = place := by omega
      rw [if_pos (by omega), kept]
    · rw [if_neg (by omega), Array.getElem?_eq_none (Nat.le_of_not_lt within)]

/-! ## The circuit -/

/-- After writes a circuit selects the RAM bank that they tell. -/
theorem Mapper.ramBank?_writeAll (header : Header) (writes : RomWrites) :
    ((ofHeader header).writeAll writes).ramBank? = ramBankAfter? header writes := by
  unfold ofHeader ramBankAfter?
  cases header.mapper with
  | romOnly | unsupported cartridgeType =>
      simp only [writeAll_fixed]
      rfl
  | mbc1 =>
      simp only [writeAll_mbc1, Mbc1.foldl_write, ramBank?, enablesRam, decide_eq_true_eq]
      rfl
  | mbc3 =>
      simp only [writeAll_mbc3, Mbc3.foldl_write, ramBank?, Mbc3.ramBank?, enablesRam,
        decide_eq_true_eq, ite_and]
  | mbc5 =>
      simp only [writeAll_mbc5, Mbc5.foldl_write, ramBank?, Mbc5.ramBits, enablesRam,
        decide_eq_true_eq]

theorem Mapper.writeAll_concat (mapper : Mapper) (writes : RomWrites) (address : RomAddress)
    (value : Byte) :
    mapper.writeAll (writes ++ [(address, value)]) =
      (mapper.writeAll writes).write address value :=
  List.foldl_append

/-- The circuit and the RAM of a cartridge are what its header and the writes into its ROM
window since power-on make them. -/
structure Told (header : Header) (writes : RomWrites) (cartridge : Cartridge) : Prop where
  circuit : cartridge.mapper = (Mapper.ofHeader header).writeAll writes
  size : cartridge.ram.size = header.ramBanks * 0x2000

namespace Told

variable {header : Header} {writes : RomWrites} {cartridge : Cartridge}

theorem ramBanks (told : Told header writes cartridge) :
    cartridge.ramBanks = header.ramBanks := by
  rw [Cartridge.ramBanks, told.size, ramBankSize, Nat.mul_div_cancel _ (by decide)]

/-- The writes tell the place behind every address of the RAM window. -/
theorem ramIndex? (told : Told header writes cartridge) (address : RamAddress) :
    cartridge.ramIndex? address = (cellAfter? header writes address).map RamCell.index := by
  unfold Cartridge.ramIndex? cellAfter?
  rw [told.circuit, Mapper.ramBank?_writeAll, told.ramBanks]
  by_cases no_banks : header.ramBanks = 0
  · simp only [if_pos no_banks, Option.map_none]
    split <;> rfl
  · simp only [if_neg no_banks]
    cases ramBankAfter? header writes <;> rfl

theorem perform (told : Told header writes cartridge) (action : Action) :
    Told header (writes ++ romWrites [action]) (cartridge.perform action) := by
  cases action with
  | writeRom address value =>
      refine ⟨?_, told.size⟩
      simp only [Cartridge.perform, writeRom, told.circuit]
      exact (Mapper.writeAll_concat _ writes address value).symm
  | writeRam address value =>
      refine ⟨?_, (size_ram_writeRam cartridge address value).trans told.size⟩
      rw [romWrites, List.filterMap_cons_none rfl, List.filterMap_nil, List.append_nil,
        ← told.circuit]
      simp only [Cartridge.perform, writeRam]
      split <;> rfl
  | loadRam data =>
      refine ⟨?_, (size_ram_loadRam cartridge data).trans told.size⟩
      rw [romWrites, List.filterMap_cons_none rfl, List.filterMap_nil, List.append_nil,
        ← told.circuit]
      rfl

theorem performAll (told : Told header writes cartridge) (actions : List Action) :
    Told header (writes ++ romWrites actions) (cartridge.performAll actions) := by
  induction actions generalizing writes cartridge with
  | nil => exact (List.append_nil writes).symm ▸ told
  | cons action actions ih =>
      have rest := ih (told.perform action)
      rwa [List.append_assoc, romWrites, romWrites, ← List.filterMap_append] at rest

/-- A program stores into the cell behind the address, and into no other. -/
theorem getElem?_writeRam (told : Told header writes cartridge) {cell : RamCell}
    (inside : cell.bank < header.ramBanks) (address : RamAddress) (value : Byte) :
    (cartridge.writeRam address value).ram[cell.index]? =
      if cellAfter? header writes address = some cell then some value
      else cartridge.ram[cell.index]? := by
  rw [writeRam, told.ramIndex? address]
  cases cellAfter? header writes address with
  | none => simp
  | some behind =>
      have stored : cell.index < cartridge.ram.size := told.size ▸ RamCell.index_lt inside
      simp only [Option.map_some, Array.getElem?_setIfInBounds, RamCell.index_inj,
        Option.some.injEq]
      split
      next same => rw [same, if_pos stored]
      next => rfl

/-- A cell keeps what was stored in it last. -/
theorem getElem?_performAll (told : Told header writes cartridge) {cell : RamCell}
    (inside : cell.bank < header.ramBanks) (actions : List Action) :
    (cartridge.performAll actions).ram[cell.index]? =
      (lastStored? header cell writes actions).or cartridge.ram[cell.index]? := by
  induction actions generalizing writes cartridge with
  | nil => rfl
  | cons action later ih =>
      rw [Cartridge.performAll, ih (told.perform action)]
      cases action with
      | writeRom address value => rfl
      | writeRam address value =>
          have stored := told.getElem?_writeRam inside address value
          rw [Cartridge.perform, stored, lastStored?, Option.or_assoc, romWrites,
            List.filterMap_cons_none rfl, List.filterMap_nil, List.append_nil]
          split <;> rfl
      | loadRam data =>
          have here : cell.index < cartridge.ram.size := told.size ▸ RamCell.index_lt inside
          have restored := cartridge.getElem?_loadRam data cell.index
          rw [Cartridge.perform, restored, lastStored?, Option.or_assoc, romWrites,
            List.filterMap_cons_none rfl, List.filterMap_nil, List.append_nil]
          by_cases covered : cell.index < data.size
          · rw [if_pos (Nat.lt_min.mpr ⟨covered, here⟩), Array.getElem?_eq_getElem covered]
            rfl
          · rw [if_neg fun both => covered (Nat.lt_min.mp both).1,
              Array.getElem?_eq_none (Nat.le_of_not_lt covered)]
            rfl

end Told

theorem told_ofImage (image : Image) (long : headerEnd ≤ image.size) :
    Told (Header.ofImage image long) [] (ofImage image long) :=
  ⟨rfl, Array.size_replicate⟩

theorem getElem?_ram_ofImage {image : Image} (long : headerEnd ≤ image.size)
    {cell : RamCell} (inside : cell.bank < (Header.ofImage image long).ramBanks) :
    (ofImage image long).ram[cell.index]? = some 0xFF := by
  have here := RamCell.index_lt inside
  rw [← (told_ofImage image long).size] at here
  rw [Array.getElem?_eq_getElem here]
  exact congrArg some (Array.getElem_replicate _)

/-- The RAM of a cartridge is a faithful banked memory behind the latch that enables it.
Whatever writes into the two windows and restored data came since the cartridge was
loaded, the RAM has the banks that the header states. An address reads what was stored
last in the cell behind it, or `0xFF` if nothing was or if no cell is behind it; which
cell that is, the writes into the ROM window tell. A write with no cell behind it changes
nothing, and restoring data replaces the start of the RAM, as far as both go. -/
theorem readRam_performAll {image : Image} {cartridge : Cartridge} {events : List Event}
    (loaded : load image = .ok (cartridge, events)) (history : List Action) :
    let header := cartridge.header
    let later := cartridge.performAll history
    let cell? := cellAfter? header (romWrites history)
    later.ram.size = header.ramBanks * 0x2000 ∧
    (∀ address, later.readRam address =
      (cell? address).elim 0xFF fun cell => (lastStored? header cell [] history).getD 0xFF) ∧
    (∀ address value, cell? address = none → later.writeRam address value = later) ∧
    ∀ data,
      later.loadRam data = { later with ram := (later.loadRam data).ram } ∧
      ∀ place : Nat, (later.loadRam data).ram[place]? =
        if place < min data.size (header.ramBanks * 0x2000) then data[place]?
        else later.ram[place]? := by
  obtain ⟨long, rfl⟩ := eq_ofImage_of_load loaded
  intro header later cell?
  have start : Told header [] (ofImage image long) := told_ofImage image long
  have told : Told header (romWrites history) later := start.performAll history
  refine ⟨told.size, fun address => ?_, fun address value unmapped => ?_, fun data => ⟨rfl, ?_⟩⟩
  · rw [readRam, told.ramIndex? address]
    cases behind : cellAfter? header (romWrites history) address with
    | none => simp only [cell?, behind, Option.map_none, Option.elim_none, openBus]
    | some cell =>
        have inside := bank_lt_of_cellAfter? behind
        have kept := start.getElem?_performAll inside history
        rw [getElem?_ram_ofImage long inside] at kept
        simp only [cell?, behind, Option.map_some, Option.elim_some]
        rw [kept]
        cases lastStored? header cell [] history <;> rfl
  · have nowhere : cellAfter? header (romWrites history) address = none := unmapped
    rw [writeRam, told.ramIndex? address, nowhere]
    rfl
  · intro place
    rw [getElem?_loadRam, told.size]

/-- A cartridge with the first circuit and four RAM banks. -/
def fourRamBanks : Image :=
  ((Array.replicate 0x150 0).setIfInBounds 0x147 0x03).setIfInBounds 0x149 0x03

theorem long_fourRamBanks : headerEnd ≤ fourRamBanks.size := by decide +kernel

/-- A byte stored in the third bank is read there again after the host has restored the
first two cells, and the fourth bank still reads `0xFF`. -/
theorem readRam_of_four_banks :
    ∃ cartridge events, load fourRamBanks = .ok (cartridge, events) ∧
      let later := cartridge.performAll
        [.writeRom 0x0000 0x0A, .writeRom 0x6000 0x01, .writeRom 0x4000 0x02,
          .writeRam 0x0001 0x42, .loadRam #[0x11, 0x22]]
      later.readRam 0x0001 = 0x42 ∧ (later.writeRom 0x4000 0x03).readRam 0x0001 = 0xFF := by
  have loaded := load_of_long long_fourRamBanks
  let history : List Action :=
    [.writeRom 0x0000 0x0A, .writeRom 0x6000 0x01, .writeRom 0x4000 0x02,
      .writeRam 0x0001 0x42, .loadRam #[0x11, 0x22]]
  obtain ⟨-, kept, -⟩ := readRam_performAll loaded history
  obtain ⟨-, blank, -⟩ := readRam_performAll loaded (history ++ [.writeRom 0x4000 0x03])
  refine ⟨_, _, loaded, ?_, ?_⟩
  · exact (kept 0x0001).trans (by decide +kernel)
  · exact (blank 0x0001).trans (by decide +kernel)

end GameBoy.Cartridge
