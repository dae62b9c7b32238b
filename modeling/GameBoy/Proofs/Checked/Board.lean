import GameBoy.Proofs.Checked.Cartridge
import GameBoy.Proofs.Checked.Lcd
import GameBoy.Proofs.Checked.Timer
import GameBoy.Proofs.Console.Sound

/-!
# The board with checked operations

An address is turned into a place in a memory by subtracting where the memory
starts, or by dropping its upper bits, and the place must lie inside. A sprite
transfer computes the addresses that it reads. A board whose checks are made
answers as the board does while its LCD controller is in a state that can occur,
and the processor, which sees it only as a bus, cannot tell them apart.
-/

namespace GameBoy

open Checked Memory

/-- The region of an address, with its place there. -/
def Memory.checkedRegion (address : Word) : Option Region :=
  let place := address.toNat
  if place < 0x8000 then .rom <$> place? 0x8000 place
  else if place < 0xA000 then .videoRam <$> place? 0x2000 (place % 0x2000)
  else if place < 0xC000 then .cartridgeRam <$> place? 0x2000 (place % 0x2000)
  else if place < 0xE000 then .workRam <$> placeFrom? 0xC000 0x2000 place
  else if place < 0xFE00 then .workRam <$> placeFrom? 0xE000 0x2000 place
  else if place < 0xFEA0 then .spriteTable <$> placeFrom? 0xFE00 0xA0 place
  else if place < 0xFF00 then some .unused
  else if place < 0xFF80 then .device <$> placeFrom? 0xFF00 0x80 place
  else if place < 0xFFFF then .highRam <$> placeFrom? 0xFF80 0x7F place
  else some .interruptEnable

/-- Press or release a button; its bit is a shifted one. -/
def Joypad.checkedSetButton (joypad : Joypad) (button : Button) (pressed : Bool) :
    Option (Joypad × Bool) := do
  let mask ← shifted? 8 button.line.val (1 <<< UInt8.ofNat button.line)
  if pressed then
    pure (joypad.modifyGroup button (· ||| mask), !joypad.isPressed button)
  else pure (joypad.modifyGroup button (· &&& ~~~mask), false)

namespace Board

section Definitions

variable (board : Board)

/-- Read the ROM window of the cartridge slot. -/
def checkedReadSlot (address : Cartridge.RomAddress) : Option Byte :=
  match board.cartridge with
  | none => pure Cartridge.openBus
  | some cartridge => cartridge.checkedReadRom address

/-- Read the ROM window. -/
def checkedReadRom (address : Cartridge.RomAddress) : Option Byte :=
  match board.overlay? with
  | some image =>
    if address.val < 0x100 then image[address.val]? else board.checkedReadSlot address
  | none => board.checkedReadSlot address

/-- Read the RAM window of the cartridge slot. -/
def checkedReadRam (address : Cartridge.RamAddress) : Option Byte :=
  match board.cartridge with
  | none => pure Cartridge.openBus
  | some cartridge => cartridge.checkedReadRam address

/-- Change the cartridge, if there is one. -/
def checkedModifyCartridge (change : Cartridge → Option Cartridge) : Option Board :=
  match board.cartridge with
  | none => pure board
  | some cartridge => do
    let cartridge ← change cartridge
    pure { board with cartridge := some cartridge }

/-- Read a place in a region. -/
def checkedReadRegion (region : Region) : Option Byte :=
  match region with
  | .rom address => board.checkedReadRom address
  | .cartridgeRam offset => board.checkedReadRam offset
  | _ => pure (board.readRegion region)

/-- Read an address. -/
def checkedRead (address : Word) : Option Byte := do
  let region ← checkedRegion address
  board.checkedReadRegion region

/-- The page that a sprite transfer reads. -/
def checkedTransferSource (value : Byte) : Option Nat :=
  if 0xDF < value then difference? value.toNat 0x20 else pure value.toNat

/-- Read an address for a sprite transfer. -/
def checkedReadForTransfer (address : Word) : Option Byte := do
  match ← checkedRegion address with
  | .videoRam offset => pure (board.lcd.vram.get offset)
  | region => board.checkedReadRegion region

/-- Copy a page into the sprite table. -/
def checkedTransferSprites (value : Byte) : Option Board := do
  let page ← checkedTransferSource value
  let base ← shiftLeft? 16 page 8
  let oam ← Vector.ofFnM fun offset : Fin 0xA0 => do
    let address ← sum? 16 base offset.val
    board.checkedReadForTransfer (UInt16.ofNat address)
  pure { board with transferPage := value, lcd := { board.lcd with oam } }

/-- Write a device register. -/
def checkedWriteDevice (register : DeviceRegister) (value : Byte) :
    Option (Board × List Event) :=
  match register with
  | .divider => do
    let timer ← board.timer.checkedResetDivider
    pure ({ board with timer }, [])
  | .timerControl => do
    let timer ← board.timer.checkedWriteControl value
    pure ({ board with timer }, [])
  | .spriteTransfer => do
    let board ← board.checkedTransferSprites value
    pure (board, [])
  | _ => pure (board.writeDevice register value)

/-- Write a place in a region. -/
def checkedWriteRegion (region : Region) (value : Byte) : Option (Board × List Event) :=
  match region with
  | .cartridgeRam offset => do
    let board ← board.checkedModifyCartridge (·.checkedWriteRam offset value)
    pure (board, [])
  | .device index => board.checkedWriteDevice (.ofIndex index) value
  | _ => pure (board.writeRegion region value)

/-- Write an address. -/
def checkedWrite (address : Word) (value : Byte) : Option (Board × List Event) := do
  let region ← checkedRegion address
  board.checkedWriteRegion region value

/-- Let the timer run. -/
def checkedRunTimer (cycles : Nat) : Option Board := do
  let (timer, requests) ← board.timer.checkedRun cycles
  let interrupts :=
    if requests = 0 then board.interrupts else board.interrupts.request .timer
  pure { board with timer, interrupts }

/-- Let the LCD controller run. -/
def checkedRunLcd (dots : Nat) : Option (Board × List Event) := do
  let (lcd, signals) ← board.lcd.checkedRun dots
  let (interrupts, events) := receiveAll board.interrupts signals
  pure ({ board with lcd, interrupts }, events)

/-- Let time pass. -/
def checkedElapse (cycles : Nat) : Option (Board × List Event) := do
  let board ← board.checkedRunTimer cycles
  board.checkedRunLcd cycles

/-- Press or release a button. -/
def checkedSetButton (button : Button) (pressed : Bool) : Option Board := do
  let (joypad, requested) ← board.joypad.checkedSetButton button pressed
  let interrupts :=
    if requested then board.interrupts.request .joypad else board.interrupts
  pure { board with joypad, interrupts }

end Definitions

/-! ## Addresses -/

/-- The start of the memory at an address is what its upper bits hold. -/
theorem mod_eq_sub {start place : Nat} (above : start ≤ place) (whole : start % 0x2000 = 0)
    (below : place < start + 0x2000) : place % 0x2000 = place - start := by
  omega

theorem checkedRegion_eq (address : Word) :
    checkedRegion address = some (.ofAddress address) := by
  have := address.toNat_lt
  simp only [checkedRegion, Region.ofAddress]
  by_cases rom : address.toNat < 0x8000
  · rw [if_pos rom, dif_pos rom, place?_of_lt rom]
    rfl
  rw [if_neg rom, dif_neg rom]
  by_cases video : address.toNat < 0xA000
  · rw [if_pos video, dif_pos video, mod_eq_sub (Nat.le_of_not_lt rom) rfl video,
      place?_of_lt (by omega)]
    rfl
  rw [if_neg video, dif_neg video]
  by_cases external : address.toNat < 0xC000
  · rw [if_pos external, dif_pos external, mod_eq_sub (Nat.le_of_not_lt video) rfl external,
      place?_of_lt (by omega)]
    rfl
  rw [if_neg external, dif_neg external]
  by_cases work : address.toNat < 0xE000
  · rw [if_pos work, dif_pos work, placeFrom?_of_lt (Nat.le_of_not_lt external) (by omega)]
    rfl
  rw [if_neg work, dif_neg work]
  by_cases echo : address.toNat < 0xFE00
  · rw [if_pos echo, dif_pos echo, placeFrom?_of_lt (Nat.le_of_not_lt work) (by omega)]
    rfl
  rw [if_neg echo, dif_neg echo]
  by_cases table : address.toNat < 0xFEA0
  · rw [if_pos table, dif_pos table, placeFrom?_of_lt (Nat.le_of_not_lt echo) (by omega)]
    rfl
  rw [if_neg table, dif_neg table]
  by_cases unused : address.toNat < 0xFF00
  · rw [if_pos unused, dif_pos unused]
  rw [if_neg unused, dif_neg unused]
  by_cases device : address.toNat < 0xFF80
  · rw [if_pos device, dif_pos device, placeFrom?_of_lt (Nat.le_of_not_lt unused) (by omega)]
    rfl
  rw [if_neg device, dif_neg device]
  by_cases high : address.toNat < 0xFFFF
  · rw [if_pos high, dif_pos high, placeFrom?_of_lt (Nat.le_of_not_lt device) (by omega)]
    rfl
  rw [if_neg high, dif_neg high]

/-! ## Reading -/

variable (board : Board)

theorem checkedReadSlot_eq (address : Cartridge.RomAddress) :
    board.checkedReadSlot address = some (board.readSlot address) := by
  rw [checkedReadSlot, readSlot]
  cases board.cartridge with
  | none => rfl
  | some cartridge => exact cartridge.checkedReadRom_eq address

theorem checkedReadRom_eq (address : Cartridge.RomAddress) :
    board.checkedReadRom address = some (board.readRom address) := by
  rw [checkedReadRom, readRom]
  cases board.overlay? with
  | none => exact board.checkedReadSlot_eq address
  | some image =>
      simp only
      by_cases covered : address.val < 0x100
      · rw [if_pos covered, dif_pos covered]
        exact image.getElem?_eq_getElem covered
      · rw [if_neg covered, dif_neg covered, checkedReadSlot_eq]

theorem checkedReadRam_eq (address : Cartridge.RamAddress) :
    board.checkedReadRam address = some (board.readRegion (.cartridgeRam address)) := by
  rw [checkedReadRam, readRegion]
  cases board.cartridge with
  | none => rfl
  | some cartridge => exact cartridge.checkedReadRam_eq address

theorem checkedReadRegion_eq (region : Region) :
    board.checkedReadRegion region = some (board.readRegion region) := by
  cases region with
  | rom address => exact board.checkedReadRom_eq address
  | cartridgeRam offset => exact board.checkedReadRam_eq offset
  | _ => rfl

/-- Reading never fails, whatever the state of the board. -/
theorem checkedRead_eq (address : Word) :
    board.checkedRead address = some (board.read address) := by
  rw [checkedRead, checkedRegion_eq, Option.bind_eq_bind, Option.bind_some,
    checkedReadRegion_eq, read]

/-! ## Writing -/

theorem checkedModifyCartridge_eq {partly : Cartridge → Option Cartridge}
    {total : Cartridge → Cartridge}
    (succeeds : ∀ cartridge, partly cartridge = some (total cartridge)) :
    board.checkedModifyCartridge partly = some (board.modifyCartridge total) := by
  simp only [checkedModifyCartridge, modifyCartridge]
  cases slot : board.cartridge with
  | none =>
      have same : board = { board with cartridge := none } := by rw [← slot]
      exact congrArg some same
  | some cartridge =>
      simp only [succeeds]
      rfl

theorem checkedReadForTransfer_eq (address : Word) :
    board.checkedReadForTransfer address = some (board.readForTransfer address) := by
  rw [checkedReadForTransfer, checkedRegion_eq, Option.bind_eq_bind, Option.bind_some,
    readForTransfer]
  cases Region.ofAddress address with
  | videoRam => rfl
  | _ => exact board.checkedReadRegion_eq _

theorem checkedTransferSource_eq (value : Byte) :
    checkedTransferSource value = some (transferSource value).toNat := by
  rw [checkedTransferSource, transferSource]
  by_cases upper : 0xDF < value
  · have above : 0x20 ≤ value.toNat := Nat.le_trans (by decide) (UInt8.lt_iff_toNat_lt.mp upper)
    rw [if_pos upper, if_pos upper, difference?_of_le above,
      UInt8.toNat_sub_of_le value 0x20 (UInt8.le_iff_toNat_le.mpr above)]
    rfl
  · rw [if_neg upper, if_neg upper]
    rfl

/-- The address of a byte of a page, as a sum. -/
theorem ofNat_page (page : Byte) (offset : Fin 0xA0) :
    UInt16.ofNat (page.toNat * 2 ^ 8 % 2 ^ 16 + offset.val) =
      Word.ofBytes page (UInt8.ofNat offset.val) := by
  have := page.toNat_lt
  have := offset.isLt
  apply UInt16.toNat_inj.mp
  rw [Word.toNat_ofBytes, UInt16.toNat_ofNat', UInt8.toNat_ofNat']
  omega

theorem checkedTransferSprites_eq (value : Byte) :
    board.checkedTransferSprites value = some (board.transferSprites value) := by
  have copy : (Vector.ofFnM fun offset : Fin 0xA0 => do
        let address ← sum? 16 ((transferSource value).toNat * 2 ^ 8 % 2 ^ 16) offset.val
        board.checkedReadForTransfer (UInt16.ofNat address)) =
      some (Vector.ofFn fun offset : Fin 0xA0 =>
        board.readForTransfer (Word.ofBytes (transferSource value) (UInt8.ofNat offset))) := by
    refine ofFnM_of_forall fun offset => ?_
    have := (transferSource value).toNat_lt
    have := offset.isLt
    rw [sum?_of_lt (by omega), Option.bind_eq_bind, Option.bind_some, ofNat_page,
      checkedReadForTransfer_eq]
  simp only [checkedTransferSprites, checkedTransferSource_eq, Option.bind_eq_bind,
    Option.bind_some, shiftLeft?_of_lt (by decide : 8 < 16)]
  simp only [Option.bind_eq_bind] at copy
  simp only [copy, Option.bind_some, Option.pure_def, transferSprites]

theorem checkedWriteDevice_eq (register : DeviceRegister) (value : Byte) :
    board.checkedWriteDevice register value = some (board.writeDevice register value) := by
  cases register with
  | divider =>
      rw [checkedWriteDevice, Timer.checkedResetDivider_eq]
      rfl
  | timerControl =>
      rw [checkedWriteDevice, Timer.checkedWriteControl_eq]
      rfl
  | spriteTransfer =>
      rw [checkedWriteDevice, checkedTransferSprites_eq]
      rfl
  | _ => rfl

theorem checkedWriteRegion_eq (region : Region) (value : Byte) :
    board.checkedWriteRegion region value = some (board.writeRegion region value) := by
  cases region with
  | cartridgeRam offset =>
      rw [checkedWriteRegion, checkedModifyCartridge_eq board fun cartridge =>
        cartridge.checkedWriteRam_eq offset value]
      rfl
  | device index => exact board.checkedWriteDevice_eq _ value
  | _ => rfl

/-- Writing never fails, whatever the state of the board. -/
theorem checkedWrite_eq (address : Word) (value : Byte) :
    board.checkedWrite address value = some (board.write address value) := by
  rw [checkedWrite, checkedRegion_eq, Option.bind_eq_bind, Option.bind_some,
    checkedWriteRegion_eq, write]

/-! ## Time and buttons -/

theorem checkedRunTimer_eq (cycles : Nat) :
    board.checkedRunTimer cycles = some (board.runTimer cycles) := by
  rw [checkedRunTimer, Timer.checkedRun_eq]
  rfl

variable {board}

/-- Time never fails to pass while the controller is in a state that can occur. -/
theorem checkedElapse_eq (sound : board.lcd.Sound) (cycles : Nat) :
    board.checkedElapse cycles = some (board.elapse cycles) := by
  have after_timer : (board.runTimer cycles).lcd.Sound := sound
  rw [checkedElapse, checkedRunTimer_eq, Option.bind_eq_bind, Option.bind_some,
    checkedRunLcd, Lcd.checkedRun_eq after_timer]
  rfl

theorem checkedSetButton_eq (button : Button) (pressed : Bool) :
    board.checkedSetButton button pressed = some (board.setButton button pressed) := by
  have same : board.joypad.checkedSetButton button pressed =
      some (board.joypad.setButton button pressed) := by
    simp only [Joypad.checkedSetButton, shifted?_of_lt button.line.isLt,
      Option.bind_eq_bind, Option.bind_some, Joypad.setButton]
    split
    · rfl
    · rfl
  rw [checkedSetButton, same]
  rfl

end Board

end GameBoy
