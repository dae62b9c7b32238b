import GameBoy.Proofs.Board.Ownership

/-!
# A sprite transfer is a snapshot

Writing the transfer register copies the start of a page into the sprite table. The page that
is read lies below the sprite table, also when the register names one above work RAM, so the
copy never reads what it has written: carried out byte by byte it gives the same table as when
all bytes are read first. Locks of the screen neither stop it nor show in it. Nothing but the
table and the register is different afterwards, and a second transfer finds the same bytes.
-/

namespace GameBoy

namespace Board

open Memory

/-- The address that a transfer copies into a cell of the sprite table. -/
def transferAddress (value : Byte) (cell : Fin 0xA0) : Word :=
  Word.ofBytes (transferSource value) (UInt8.ofNat cell)

/-- Replace the sprite table, and the page it was last transferred from. -/
def setSprites (board : Board) (page : Byte) (oam : Vector Byte 0xA0) : Board :=
  { board with transferPage := page, lcd := { board.lcd with oam } }

theorem setSprites_setSprites (board : Board) (page first : Byte) (oam old : Vector Byte 0xA0) :
    (board.setSprites first old).setSprites page oam = board.setSprites page oam := rfl

/-! ## The page -/

theorem toNat_transferSource (value : Byte) :
    (transferSource value).toNat =
      if value.toNat ≤ 0xDF then value.toNat else value.toNat - 0x20 := by
  have := value.toNat_lt
  have step : (0x20 : Byte).toNat = 0x20 := rfl
  simp only [transferSource, UInt8.lt_iff_toNat_lt, UInt8.reduceToNat]
  split
  next above =>
    rw [if_neg (by omega), UInt8.toNat_sub]
    omega
  next below => rw [if_pos (by omega)]

theorem toNat_transferAddress (value : Byte) (cell : Fin 0xA0) :
    (transferAddress value cell).toNat = 256 * (transferSource value).toNat + cell := by
  have := cell.isLt
  rw [transferAddress, Word.toNat_ofBytes, UInt8.toNat_ofNat']
  omega

/-- No transfer reads the sprite table or a device. -/
theorem transferAddress_lt (value : Byte) (cell : Fin 0xA0) :
    (transferAddress value cell).toNat < 0xE000 := by
  have := cell.isLt
  have := value.toNat_lt
  rw [toNat_transferAddress, toNat_transferSource]
  split <;> omega

/-! ## What is read -/

section Reads

variable (board : Board) (page : Byte) (oam : Vector Byte 0xA0)

theorem readForTransfer_setSprites {address : Word} (low : address.toNat < 0xE000) :
    (board.setSprites page oam).readForTransfer address = board.readForTransfer address := by
  unfold readForTransfer
  cases region : Region.ofAddress address with
  | spriteTable | device =>
      have covers := Region.ofAddress_eq_iff.mp region
      simp only [Region.Covers] at covers
      omega
  | _ => rfl

theorem ofAddress_transferRegister : Region.ofAddress 0xFF46 = .device 0x46 := by decide

theorem ofIndex_transferRegister : DeviceRegister.ofIndex 0x46 = .spriteTransfer := by decide

theorem read_transferRegister : (board.setSprites page oam).read 0xFF46 = page := by
  rw [read, ofAddress_transferRegister, readRegion, ofIndex_transferRegister]
  rfl

theorem write_transferRegister (value : Byte) :
    board.write 0xFF46 value = (board.transferSprites value, []) := by
  rw [write, ofAddress_transferRegister, writeRegion, ofIndex_transferRegister]
  rfl

/-- Everywhere but in the table and in the register the board reads as before. -/
theorem read_setSprites {address : Word}
    (elsewhere : ¬ (0xFE00 ≤ address.toNat ∧ address.toNat ≤ 0xFE9F))
    (other : address ≠ 0xFF46) :
    (board.setSprites page oam).read address = board.read address := by
  unfold read
  cases region : Region.ofAddress address with
  | spriteTable offset =>
      have covers := Region.ofAddress_eq_iff.mp region
      simp only [Region.Covers] at covers
      omega
  | device index =>
      have covers := Region.ofAddress_eq_iff.mp region
      simp only [Region.Covers] at covers
      have notRegister : DeviceRegister.ofIndex index ≠ .spriteTransfer := by
        have only : ∀ index : Fin 0x80,
            DeviceRegister.ofIndex index = .spriteTransfer → index = 0x46 := by decide
        intro register
        rw [only index register] at covers
        exact other (UInt16.toNat_inj.mp covers)
      simp only [readRegion]
      cases register : DeviceRegister.ofIndex index with
      | spriteTransfer => exact absurd register notRegister
      | _ => rfl
  | _ => rfl

/-- The video memory is read as it is. -/
theorem readForTransfer_of_video {address : Word} {offset : Fin 0x2000}
    (here : address.toNat = 0x8000 + offset) :
    board.readForTransfer address = board.lcd.vram.get offset := by
  have region : Region.ofAddress address = .videoRam offset := Region.ofAddress_eq_iff.mpr here
  simp only [readForTransfer, region]

/-- Everything else is read as the processor reads it. -/
theorem readForTransfer_of_other {address : Word}
    (other : ¬ (0x8000 ≤ address.toNat ∧ address.toNat ≤ 0x9FFF)) :
    board.readForTransfer address = board.read address := by
  simp only [readForTransfer, read]
  split
  next offset region =>
    have covers := Region.ofAddress_eq_iff.mp region
    simp only [Region.Covers] at covers
    omega
  next => rfl

/-- The window of a cartridge that connects no RAM reads as open, and so does an empty slot. -/
theorem read_of_disconnected {address : Word} {offset : Fin 0x2000}
    (here : address.toNat = 0xA000 + offset)
    (disconnected : ∀ cartridge ∈ board.cartridge, cartridge.mapper.ramBank? = none) :
    board.read address = 0xFF := by
  have region : Region.ofAddress address = .cartridgeRam offset :=
    Region.ofAddress_eq_iff.mpr here
  simp only [read, region, readRegion]
  cases inserted : board.cartridge with
  | none => rfl
  | some cartridge =>
      simp only [Option.elim_some, Cartridge.readRam, Cartridge.ramIndex?,
        disconnected cartridge inserted]
      rfl

end Reads

/-! ## The copy -/

/-- Copy one byte of the page in the transfer register. -/
def transferCell (board : Board) (cell : Fin 0xA0) : Board :=
  board.setSprites board.transferPage
    (put board.lcd.oam cell (board.readForTransfer (transferAddress board.transferPage cell)))

/-- Copying cells one after another takes to them what the board held in the first place. -/
theorem foldl_transferCell (board : Board) (cells : List (Fin 0xA0)) :
    let after := cells.foldl transferCell board
    after = board.setSprites board.transferPage after.lcd.oam ∧ ∀ cell,
      (cell ∈ cells → after.lcd.oam.get cell =
        board.readForTransfer (transferAddress board.transferPage cell)) ∧
      (cell ∉ cells → after.lcd.oam.get cell = board.lcd.oam.get cell) := by
  induction cells generalizing board with
  | nil => exact ⟨rfl, fun cell => ⟨nofun, fun _ => rfl⟩⟩
  | cons first rest copied =>
      obtain ⟨elsewhere, table⟩ := copied (board.transferCell first)
      -- The first copy is not among what the others read.
      have same (cell : Fin 0xA0) : (board.transferCell first).readForTransfer
          (transferAddress board.transferPage cell) =
            board.readForTransfer (transferAddress board.transferPage cell) :=
        board.readForTransfer_setSprites _ _ (transferAddress_lt _ cell)
      have kept (cell : Fin 0xA0) : (board.transferCell first).lcd.oam.get cell =
          if cell = first then
            board.readForTransfer (transferAddress board.transferPage first)
          else board.lcd.oam.get cell := get_put board.lcd.oam first cell _
      rw [List.foldl_cons]
      refine ⟨elsewhere, fun cell => ⟨fun among => ?_, fun outside => ?_⟩⟩
      · by_cases later : cell ∈ rest
        · exact ((table cell).1 later).trans (same cell)
        · have now : cell = first := (List.mem_cons.mp among).resolve_right later
          rw [(table cell).2 later, kept, if_pos now, now]
      · obtain ⟨other, never⟩ := List.ne_and_not_mem_of_not_mem_cons outside
        rw [(table cell).2 never, kept, if_neg other]

theorem transferSprites_eq (board : Board) (value : Byte) :
    board.transferSprites value = board.setSprites value (Vector.ofFn fun cell =>
      board.readForTransfer (transferAddress value cell)) := rfl

theorem get_transferSprites (board : Board) (value : Byte) (cell : Fin 0xA0) :
    (board.transferSprites value).lcd.oam.get cell =
      board.readForTransfer (transferAddress value cell) := by
  rw [transferSprites_eq]
  exact Vector.getElem_ofFn cell.isLt

/-- A transfer is a loop over the cells of the table, each of which is read through the board
as the earlier ones have left it. -/
theorem transferSprites_eq_foldl (board : Board) (value : Byte) :
    board.transferSprites value =
      (List.finRange 0xA0).foldl transferCell { board with transferPage := value } := by
  obtain ⟨elsewhere, table⟩ :=
    foldl_transferCell { board with transferPage := value } (List.finRange 0xA0)
  have same (cell : Fin 0xA0) :
      ({ board with transferPage := value } : Board).readForTransfer (transferAddress value cell) =
        board.readForTransfer (transferAddress value cell) :=
    board.readForTransfer_setSprites value board.lcd.oam (transferAddress_lt value cell)
  rw [elsewhere, transferSprites_eq]
  refine congrArg (board.setSprites value) (Vector.ext fun place bound => ?_)
  have copied := (table ⟨place, bound⟩).1 (List.mem_finRange _)
  exact (Vector.getElem_ofFn bound).trans (copied.trans (same ⟨place, bound⟩)).symm

/-- A second transfer finds what the first one found. -/
theorem transferSprites_transferSprites (board : Board) (value : Byte) :
    (board.transferSprites value).transferSprites value = board.transferSprites value := by
  have same (cell : Fin 0xA0) :
      (board.transferSprites value).readForTransfer (transferAddress value cell) =
        board.readForTransfer (transferAddress value cell) :=
    board.readForTransfer_setSprites value _ (transferAddress_lt value cell)
  rw [transferSprites_eq (board.transferSprites value)]
  simp only [same]
  rw [transferSprites_eq, setSprites_setSprites]

/-- A transfer copies a snapshot. On every board, whatever its screen does, its cartridge
connects and its overlay covers, writing the register of the sprite transfer leaves in each cell
of the table what the page held there before: the byte of the video memory itself, locked or
not, and elsewhere what the processor reads, which is `0xFF` for RAM that is not connected. The
register gives back what was written, all other addresses read as before, and nothing but the
table and the register is different. The same write once more changes nothing. Copying the bytes
one after another comes to the same. -/
theorem transfer_copies_snapshot (board : Board) (value : Byte) :
    let page := if value.toNat ≤ 0xDF then value.toNat else value.toNat - 0x20
    let after := (board.write 0xFF46 value).1
    (∀ cell : Fin 0xA0, ∃ source : Word, source.toNat = page * 256 + cell ∧
      (if 0x80 ≤ page ∧ page ≤ 0x9F then
        ∃ offset : Fin 0x2000, source.toNat = 0x8000 + offset ∧
          after.lcd.oam.get cell = board.lcd.vram.get offset
      else after.lcd.oam.get cell = board.read source) ∧
      (0xA0 ≤ page ∧ page ≤ 0xBF →
        (∀ cartridge ∈ board.cartridge, cartridge.mapper.ramBank? = none) →
          after.lcd.oam.get cell = 0xFF) ∧
      after.read source = board.read source) ∧
    after.read 0xFF46 = value ∧
    (∀ address : Word, ¬ (0xFE00 ≤ address.toNat ∧ address.toNat ≤ 0xFE9F) →
      address ≠ 0xFF46 → after.read address = board.read address) ∧
    after = { board with
      transferPage := value, lcd := { board.lcd with oam := after.lcd.oam } } ∧
    (board.write 0xFF46 value).2 = [] ∧
    after.write 0xFF46 value = (after, []) ∧
    after = (List.finRange 0xA0).foldl transferCell { board with transferPage := value } := by
  intro page after
  have done : after = board.transferSprites value :=
    congrArg Prod.fst (board.write_transferRegister value)
  have there (cell : Fin 0xA0) : (transferAddress value cell).toNat = page * 256 + cell := by
    rw [toNat_transferAddress, toNat_transferSource, Nat.mul_comm]
  have copied (cell : Fin 0xA0) :
      after.lcd.oam.get cell = board.readForTransfer (transferAddress value cell) := by
    rw [done, get_transferSprites]
  have table : after = board.setSprites value after.lcd.oam := done ▸ rfl
  have kept (address : Word) (elsewhere : ¬ (0xFE00 ≤ address.toNat ∧ address.toNat ≤ 0xFE9F))
      (other : address ≠ 0xFF46) : after.read address = board.read address := by
    rw [table, board.read_setSprites value _ elsewhere other]
  refine ⟨fun cell => ⟨transferAddress value cell, there cell, ?held, ?disconnected, ?source⟩,
    ?register, kept, table, ?silent, ?again, ?loop⟩
  case held =>
    have := cell.isLt
    rw [copied]
    split
    next video =>
      let offset : Fin 0x2000 := ⟨(page - 0x80) * 256 + cell, by omega⟩
      have place : (transferAddress value cell).toNat = 0x8000 + offset := by
        rw [there]
        simp only [offset]
        omega
      exact ⟨offset, place, board.readForTransfer_of_video place⟩
    next other =>
      refine board.readForTransfer_of_other ?_
      rw [there]
      omega
  case disconnected =>
    intro window disconnected
    have := cell.isLt
    let offset : Fin 0x2000 := ⟨(page - 0xA0) * 256 + cell, by omega⟩
    have place : (transferAddress value cell).toNat = 0xA000 + offset := by
      rw [there]
      simp only [offset]
      omega
    rw [copied, board.readForTransfer_of_other (by omega)]
    exact board.read_of_disconnected place disconnected
  case source =>
    have low := transferAddress_lt value cell
    refine kept _ (by omega) fun register => ?_
    rw [register] at low
    exact absurd low (by decide)
  case register => rw [table, read_transferRegister]
  case silent => rw [write_transferRegister]
  case again => rw [write_transferRegister, done, transferSprites_transferSprites]
  case loop => rw [done, transferSprites_eq_foldl]

/-- While a line is drawn the processor reads nothing of the video memory, and a transfer copies
what it holds. With no cartridge, the window of its RAM is copied as open. -/
theorem transfer_copies_snapshot_of_locked :
    drawing.read 0x8005 = 0xFF ∧ (drawing.write 0xFF46 0x80).1.lcd.oam.get 5 = 0 ∧
      drawing.cartridge = none ∧ (drawing.write 0xFF46 0xA0).1.lcd.oam.get 5 = 0xFF := by
  have locked : drawing.read 0x8005 = 0xFF := by
    have region : Region.ofAddress 0x8005 = .videoRam 5 := by decide
    have mode : ¬ drawing.lcd.vramAccessible = true := by decide
    simp only [read, region, readRegion, Lcd.readVram, if_neg mode]
  have raw (offset : Fin 0x2000) : drawing.lcd.vram.get offset = 0 :=
    Vector.getElem_replicate offset.isLt
  have empty : drawing.cartridge = none := rfl
  obtain ⟨video, -⟩ := drawing.transfer_copies_snapshot 0x80
  obtain ⟨window, -⟩ := drawing.transfer_copies_snapshot 0xA0
  obtain ⟨source, -, held, -⟩ := video 5
  obtain ⟨-, -, -, disconnected, -⟩ := window 5
  rw [if_pos (by decide)] at held
  obtain ⟨offset, -, copied⟩ := held
  exact ⟨locked, copied.trans (raw offset), empty, disconnected (by decide) (by simp [empty])⟩

end Board

end GameBoy
