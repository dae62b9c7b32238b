import GameBoy.Lcd.Mode
import GameBoy.Picture.Frame

/-!
# The LCD controller

The controller owns the video memory, the sprite table and its registers, and
draws one line after another into a frame. It keeps two frames: the one shown is
the last that was completed, the other is under way.
-/

namespace GameBoy

/-- Number of sprites in the sprite table. -/
def spriteCount : Nat := 40

/-- The LCD controller. With the screen off nothing in it moves. -/
structure Lcd where
  /-- Tiles, then two tile maps. -/
  vram : Vector Byte 0x2000 := Vector.replicate 0x2000 0
  /-- The sprite table, four bytes a sprite. -/
  oam : Vector Byte 0xA0 := Vector.replicate 0xA0 0
  control : Byte := 0
  /-- The interrupt conditions chosen in the status register. -/
  statSelect : Byte := 0
  scrollY : Byte := 0
  scrollX : Byte := 0
  line : Nat := 0
  lineCompare : Byte := 0
  backgroundPalette : Byte := 0
  spritePalette0 : Byte := 0
  spritePalette1 : Byte := 0
  windowY : Byte := 0
  windowX : Byte := 0
  mode : Lcd.Mode := .hblank
  /-- Clock cycles since the line began. -/
  dot : Nat := 0
  /-- Rows of the window drawn so far in this frame. -/
  windowLine : Byte := 0
  /-- The interrupt line; its rising edge requests an interrupt. -/
  statLine : Bool := false
  /-- Sprites found on the current line, in table order. -/
  lineSprites : List (Fin spriteCount) := []
  /-- Whether the sprites were taken as sixteen rows tall when they were found. -/
  lineSpritesTall : Bool := false
  /-- The last completed frame. -/
  shown : Frame := .blank
  /-- The frame under way. -/
  drawn : Frame := .blank
  /-- Whether a frame was completed since this was last asked. -/
  frameReady : Bool := false

namespace Lcd

/-- Dots at which the sprite table has been scanned. -/
def scanEnd : Nat := 80

/-- Dots at which the pixels of a line have been transferred. -/
def transferEnd : Nat := 252

/-- Dots in a line. -/
def lineEnd : Nat := 456

/-- Lines in a frame, with the vertical blank. -/
def frameEnd : Nat := 154

/-- Most sprites that one line can show. -/
def spritesPerLine : Nat := 10

/-- Whether the screen is on. -/
def enabled (lcd : Lcd) : Bool := lcd.control.bit 7

/-- Whether the window takes its tiles from the upper map. -/
def windowMapHigh (lcd : Lcd) : Bool := lcd.control.bit 6

/-- Whether the window may be drawn. -/
def windowEnabled (lcd : Lcd) : Bool := lcd.control.bit 5

/-- Whether tile numbers count from the start of the video memory. -/
def tilesUnsigned (lcd : Lcd) : Bool := lcd.control.bit 4

/-- Whether the background takes its tiles from the upper map. -/
def backgroundMapHigh (lcd : Lcd) : Bool := lcd.control.bit 3

/-- Whether sprites are sixteen rows tall. -/
def spritesTall (lcd : Lcd) : Bool := lcd.control.bit 2

/-- Whether sprites are drawn. -/
def spritesEnabled (lcd : Lcd) : Bool := lcd.control.bit 1

/-- Whether background and window are drawn. -/
def backgroundEnabled (lcd : Lcd) : Bool := lcd.control.bit 0

/-- The controller as a boot program leaves it: the screen is on, at the start of
a frame. -/
def afterBoot : Lcd := { control := 0x91, backgroundPalette := 0xFC, mode := .oamScan }

/-- Light the screen at the start of a frame, as a boot program does before it ends. -/
def handOver (lcd : Lcd) : Lcd :=
  { lcd with control := 0x91, backgroundPalette := 0xFC, line := 0, dot := 0, mode := .oamScan }

theorem handOver_new : handOver {} = afterBoot := rfl

/-- The controller after its completed frame was taken notice of. -/
def clearReady (lcd : Lcd) : Lcd := { lcd with frameReady := false }

/-- Whether the processor reaches the video memory: not during pixel transfer. -/
def vramAccessible (lcd : Lcd) : Bool := !lcd.enabled || lcd.mode != .transfer

/-- Whether the processor reaches the sprite table: only during blanks. -/
def oamAccessible (lcd : Lcd) : Bool :=
  !lcd.enabled || lcd.mode == .hblank || lcd.mode == .vblank

/-- Read the video memory as the processor does. -/
def readVram (lcd : Lcd) (offset : Fin 0x2000) : Byte :=
  if lcd.vramAccessible then lcd.vram[offset] else 0xFF

/-- Write the video memory as the processor does. -/
def writeVram (lcd : Lcd) (offset : Fin 0x2000) (value : Byte) : Lcd :=
  if lcd.vramAccessible then { lcd with vram := lcd.vram.set offset value } else lcd

/-- Read the sprite table as the processor does. -/
def readOam (lcd : Lcd) (offset : Fin 0xA0) : Byte :=
  if lcd.oamAccessible then lcd.oam[offset] else 0xFF

/-- Write the sprite table as the processor does. -/
def writeOam (lcd : Lcd) (offset : Fin 0xA0) (value : Byte) : Lcd :=
  if lcd.oamAccessible then { lcd with oam := lcd.oam.set offset value } else lcd

end Lcd

end GameBoy
