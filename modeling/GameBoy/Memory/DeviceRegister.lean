import GameBoy.Lcd.Register

/-!
# Device registers

The 128 addresses from `0xFF00` are the registers of the devices. Sound is not
produced, but its registers and its wave table keep what is written.
-/

namespace GameBoy.Memory

/-- Number of addresses from the first sound register to the end of the wave
table. -/
def audioSize : Nat := 0x30

/-- A register of a device. -/
inductive DeviceRegister where
  | joypad
  | serialData
  | serialControl
  | divider
  | timerCount
  | timerModulo
  | timerControl
  | interruptRequest
  | audio (offset : Fin audioSize)
  | lcd (register : Lcd.Register)
  | spriteTransfer
  | bootOverlay
  | unused
  deriving DecidableEq, Repr

namespace DeviceRegister

/-- The sound register or wave table cell at an index, if there is one. -/
def audioOffset? (index : Nat) : Option (Fin audioSize) :=
  if register : 0x10 ≤ index ∧ index ≤ 0x26 then
    some ⟨index - 0x10, by unfold audioSize; omega⟩
  else if wave : 0x30 ≤ index ∧ index ≤ 0x3F then
    some ⟨index - 0x10, by unfold audioSize; omega⟩
  else none

/-- The register at an index, counted from `0xFF00`. -/
def ofIndex (index : Fin 0x80) : DeviceRegister :=
  match index.val with
  | 0x00 => .joypad
  | 0x01 => .serialData
  | 0x02 => .serialControl
  | 0x04 => .divider
  | 0x05 => .timerCount
  | 0x06 => .timerModulo
  | 0x07 => .timerControl
  | 0x0F => .interruptRequest
  | 0x40 => .lcd .control
  | 0x41 => .lcd .status
  | 0x42 => .lcd .scrollY
  | 0x43 => .lcd .scrollX
  | 0x44 => .lcd .line
  | 0x45 => .lcd .lineCompare
  | 0x46 => .spriteTransfer
  | 0x47 => .lcd .backgroundPalette
  | 0x48 => .lcd .spritePalette0
  | 0x49 => .lcd .spritePalette1
  | 0x4A => .lcd .windowY
  | 0x4B => .lcd .windowX
  | 0x50 => .bootOverlay
  | other =>
    match audioOffset? other with
    | some offset => .audio offset
    | none => .unused

end DeviceRegister

end GameBoy.Memory
