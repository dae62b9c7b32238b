import GameBoy.Lcd.Tile

/-!
# Sprites

A sprite is a tile, or two tiles one above the other, that can be placed anywhere
on the screen and beyond its edges. Its position is stored 16 rows and 8 columns
too large, so that zero is off the screen. Before a line is drawn the sprite
table is scanned for the first ten sprites on that line; where several of them
cover a pixel, the leftmost one is in front, and of two in the same column the
one that comes first in the table.
-/

namespace GameBoy.Lcd

/-- An entry of the sprite table. -/
structure Sprite where
  y : Byte
  x : Byte
  tile : Byte
  attributes : Byte
  deriving DecidableEq, Repr

namespace Sprite

/-- Rows of a sprite. -/
def height (tall : Bool) : Nat := if tall then 16 else 8

/-- Whether the sprite hides only behind the first background color. -/
def behindBackground (sprite : Sprite) : Bool := sprite.attributes.bit 7

/-- Whether the sprite is upside down. -/
def flippedY (sprite : Sprite) : Bool := sprite.attributes.bit 6

/-- Whether the sprite's left and right are exchanged. -/
def flippedX (sprite : Sprite) : Bool := sprite.attributes.bit 5

/-- Whether the sprite uses the second palette. -/
def secondPalette (sprite : Sprite) : Bool := sprite.attributes.bit 4

/-- Whether the sprite has a row on the line. -/
def onLine (sprite : Sprite) (tall : Bool) (line : Nat) : Bool :=
  sprite.y.toNat ≤ line + 16 && line + 16 < sprite.y.toNat + height tall

/-- Whether the sprite has a column at `x`. -/
def onColumn (sprite : Sprite) (x : Nat) : Bool :=
  sprite.x.toNat ≤ x + 8 && x < sprite.x.toNat

/-- The row of the sprite's picture that appears on the line. -/
def pictureRow (sprite : Sprite) (tall : Bool) (line : Nat) : Nat :=
  let row := line + 16 - sprite.y.toNat
  if sprite.flippedY then height tall - 1 - row else row

/-- The column of the sprite's picture that appears at `x`. -/
def pictureColumn (sprite : Sprite) (x : Nat) : Nat :=
  let column := x + 8 - sprite.x.toNat
  if sprite.flippedX then 7 - column else column

/-- The tile that holds a row of the picture. A tall sprite is an even tile above
the odd one that follows it. -/
def pictureTile (sprite : Sprite) (tall : Bool) (row : Nat) : Fin tileCount :=
  have := sprite.tile.toNat_lt
  let first := if tall then sprite.tile.toNat / 2 * 2 else sprite.tile.toNat
  have : first ≤ sprite.tile.toNat := by simp only [first]; split <;> omega
  ⟨first + row / 8 % 2, by unfold tileCount; omega⟩

/-- The color number of the sprite at a pixel of the line; zero, also where the
sprite does not reach, is transparent. -/
def color (sprite : Sprite) (vram : Vector Byte 0x2000) (tall : Bool) (line x : Nat) :
    Color :=
  if sprite.onLine tall line && sprite.onColumn x then
    let row := sprite.pictureRow tall line
    tileColor vram (sprite.pictureTile tall row) ⟨row % 8, by omega⟩
      ⟨sprite.pictureColumn x % 8, by omega⟩
  else 0

end Sprite

/-- An entry of the sprite table. -/
def sprite (lcd : Lcd) (index : Fin spriteCount) : Sprite :=
  have : index.val < 40 := index.isLt
  { y := lcd.oam[4 * index.val]
    x := lcd.oam[4 * index.val + 1]
    tile := lcd.oam[4 * index.val + 2]
    attributes := lcd.oam[4 * index.val + 3] }

/-- Find the sprites on the current line. -/
def scanSprites (lcd : Lcd) : Lcd :=
  let tall := lcd.spritesTall
  let found := (List.finRange spriteCount).filter fun index =>
    (lcd.sprite index).onLine tall lcd.line
  { lcd with lineSprites := found.take spritesPerLine, lineSpritesTall := tall }

/-- Whether one sprite is in front of another. -/
def inFront (lcd : Lcd) (first second : Fin spriteCount) : Bool :=
  let firstX := (lcd.sprite first).x
  let secondX := (lcd.sprite second).x
  firstX < secondX || (firstX == secondX && first ≤ second)

/-- Insert a sprite before the first one that it is in front of. -/
def insertSprite (lcd : Lcd) (index : Fin spriteCount) :
    List (Fin spriteCount) → List (Fin spriteCount)
  | [] => [index]
  | first :: rest =>
    if lcd.inFront index first then index :: first :: rest
    else first :: lcd.insertSprite index rest

/-- The sprites found on the line, front to back. -/
def spriteOrder (lcd : Lcd) : List Sprite :=
  (lcd.lineSprites.foldr lcd.insertSprite []).map lcd.sprite

end GameBoy.Lcd
