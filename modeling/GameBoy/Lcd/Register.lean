import GameBoy.Lcd.Timing

/-!
# The controller's registers

Eleven registers are visible to the processor. Two writes reach beyond the
register itself: the control register switches the screen on and off, and the
conditions of the interrupt line are re-examined when they change.
-/

namespace GameBoy

namespace Lcd

/-- A register that the processor can address. -/
inductive Register where
  | control
  | status
  | scrollY
  | scrollX
  | line
  | lineCompare
  | backgroundPalette
  | spritePalette0
  | spritePalette1
  | windowY
  | windowX
  deriving DecidableEq, Repr

/-- Bits of the status register that choose interrupt conditions. -/
def statBits : Byte := 0x78

/-- The status register: the chosen conditions, the coincidence of lines and the
mode. -/
def status (lcd : Lcd) : Byte :=
  0x80 ||| lcd.statSelect ||| (if lcd.coincides then 0x04 else 0) ||| lcd.mode.code

/-- Read a register. -/
def read (lcd : Lcd) : Register → Byte
  | .control => lcd.control
  | .status => lcd.status
  | .scrollY => lcd.scrollY
  | .scrollX => lcd.scrollX
  | .line => UInt8.ofNat lcd.line
  | .lineCompare => lcd.lineCompare
  | .backgroundPalette => lcd.backgroundPalette
  | .spritePalette0 => lcd.spritePalette0
  | .spritePalette1 => lcd.spritePalette1
  | .windowY => lcd.windowY
  | .windowX => lcd.windowX

/-- The controller after its screen went dark. -/
def switchOff (lcd : Lcd) : Lcd × List Signal :=
  ({ lcd with line := 0, dot := 0, mode := .hblank, statLine := false },
    [.switchedOff lcd.line])

/-- The controller at the start of a frame, after its screen lit up. -/
def switchOn (lcd : Lcd) : Lcd × List Signal :=
  let (lcd, signals) := { lcd with line := 0, dot := 0, windowLine := 0 }.enter .oamScan
  (lcd, .switchedOn :: signals)

/-- Write the control register. -/
def writeControl (lcd : Lcd) (value : Byte) : Lcd × List Signal :=
  let before := lcd.enabled
  let lcd := { lcd with control := value }
  if before && !lcd.enabled then lcd.switchOff
  else if !before && lcd.enabled then lcd.switchOn
  else (lcd, [])

/-- Write a register. The line counter cannot be written. -/
def write (lcd : Lcd) (register : Register) (value : Byte) : Lcd × List Signal :=
  match register with
  | .control => lcd.writeControl value
  | .status => { lcd with statSelect := value &&& statBits }.updateStat
  | .scrollY => ({ lcd with scrollY := value }, [])
  | .scrollX => ({ lcd with scrollX := value }, [])
  | .line => (lcd, [])
  | .lineCompare => { lcd with lineCompare := value }.updateStat
  | .backgroundPalette => ({ lcd with backgroundPalette := value }, [])
  | .spritePalette0 => ({ lcd with spritePalette0 := value }, [])
  | .spritePalette1 => ({ lcd with spritePalette1 := value }, [])
  | .windowY => ({ lcd with windowY := value }, [])
  | .windowX => ({ lcd with windowX := value }, [])

end Lcd

end GameBoy
