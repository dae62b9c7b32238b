import GameBoy.Lcd.Basic

/-!
# Tiles

The video memory starts with 384 tiles of eight by eight pixels. A row of a tile
is two bytes: the first holds the low bits of its eight color numbers, the second
the high bits, leftmost pixel in bit 7. Behind the tiles lie two maps of 32 by
32 tile numbers, which the background and the window are laid out from.
-/

namespace GameBoy.Lcd

/-- The color number of a pixel, before a palette. -/
abbrev Color := Fin 4

/-- Number of tiles in the video memory. -/
def tileCount : Nat := 384

/-- Offset of the lower tile map in the video memory. -/
def lowMap : Nat := 0x1800

/-- Offset of the upper tile map in the video memory. -/
def highMap : Nat := 0x1C00

/-- The color number that two bits spell. -/
def colorOfBits (high low : Bool) : Color :=
  match high, low with
  | false, false => 0
  | false, true => 1
  | true, false => 2
  | true, true => 3

/-- The shade that a palette gives a color number. -/
def paletteShade (palette : Byte) (color : Color) : Shade :=
  colorOfBits (palette.bit (2 * color + 1)) (palette.bit (2 * color))

/-- The color number of a pixel of a tile. -/
def tileColor (vram : Vector Byte 0x2000) (tile : Fin tileCount) (row column : Fin 8) :
    Color :=
  have : tile.val < 384 := tile.isLt
  let low := vram[16 * tile.val + 2 * row.val]
  let high := vram[16 * tile.val + 2 * row.val + 1]
  colorOfBits (high.bit (7 - column)) (low.bit (7 - column))

/-- The tile that a tile number of a map names. Numbers from `0x80` up name the
same tile under both countings; lower ones name one of the last tiles unless
they count from the start. -/
def mapTile (lcd : Lcd) (number : Byte) : Fin tileCount :=
  have : number.toNat < 256 := number.toNat_lt
  if small : lcd.tilesUnsigned = false ∧ number.toNat < 0x80 then
    ⟨number.toNat + 256, by unfold tileCount; omega⟩
  else ⟨number.toNat, by unfold tileCount; omega⟩

/-- Offset of a tile map in the video memory. -/
def mapStart (high : Bool) : Nat := if high then highMap else lowMap

theorem mapStart_le (high : Bool) : mapStart high ≤ 0x1C00 := by
  cases high <;> decide

/-- The tile number at a place of a map. -/
def mapNumber (vram : Vector Byte 0x2000) (high : Bool) (row column : Fin 32) : Byte :=
  have := mapStart_le high
  vram[mapStart high + 32 * row.val + column.val]

/-- The color number at a point of a map, which is 256 pixels wide and tall. -/
def mapColor (lcd : Lcd) (high : Bool) (x y : Byte) : Color :=
  have := x.toNat_lt
  have := y.toNat_lt
  let number := mapNumber lcd.vram high ⟨y.toNat / 8, by omega⟩ ⟨x.toNat / 8, by omega⟩
  tileColor lcd.vram (lcd.mapTile number) ⟨y.toNat % 8, by omega⟩ ⟨x.toNat % 8, by omega⟩

end GameBoy.Lcd
