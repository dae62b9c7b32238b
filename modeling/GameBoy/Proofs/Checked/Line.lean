import GameBoy.Proofs.Checked.Number
import GameBoy.Proofs.Lcd.Scene

/-!
# Drawing a line with checked operations

Drawing looks into the video memory and the sprite table at places that it
computes from registers, from map entries and from sprite entries, some of them
with signed numbers of sixteen bits. With each of these steps checked, a line
below the screen's height with at most ten sprites is drawn as ever.
-/

namespace GameBoy.Lcd

open Checked

/-- A byte as a signed number. -/
def signedByte (byte : Byte) : Int :=
  if byte.toNat < 0x80 then byte.toNat else byte.toNat - 0x100

/-- The shade that a palette gives a color number. -/
def checkedShade (palette : Byte) (color : Nat) : Option Nat := do
  let amount ← product? 8 color 2
  let shifted ← shiftRight? 8 palette.toNat amount
  pure (shifted % 4)

variable (lcd : Lcd)

/-- The color number in a tile that starts at an offset. -/
def checkedTileColor (start row column : Nat) : Option Nat := do
  let rows ← product? 32 2 row
  let place ← sum? 32 start rows
  let low ← lcd.vram[place]?
  let next ← sum? 32 place 1
  let high ← lcd.vram[next]?
  let bit ← difference? 7 column
  let highBit ← shiftRight? 8 high.toNat bit
  let lowBit ← shiftRight? 8 low.toNat bit
  let upper ← shiftLeft? 8 (highBit % 2) 1
  pure (upper + lowBit % 2)

/-- The tile number at a point of a map. -/
def checkedMapNumber (high : Bool) (x y : Nat) : Option Byte := do
  let rows ← product? 32 32 (y / 8)
  let row ← sum? 32 (mapStart high) rows
  let place ← sum? 32 row (x / 8)
  lcd.vram[place]?

/-- Offset of the tile that a number of a map names. -/
def checkedTileStart (number : Byte) : Option Nat :=
  if lcd.tilesUnsigned then product? 32 number.toNat 16
  else do
    let offset ← signed? 32 (signedByte number * 16)
    let start ← signed? 32 (0x1000 + offset)
    index? start

/-- The color number at a point of a map. -/
def checkedMapColor (high : Bool) (x y : Nat) : Option Nat := do
  let number ← lcd.checkedMapNumber high x y
  let start ← lcd.checkedTileStart number
  lcd.checkedTileColor start (y % 8) (x % 8)

/-- The background's color number at a column. -/
def checkedBackgroundColor (x : Nat) : Option Nat := do
  let row ← sum? 32 lcd.scrollY.toNat lcd.line
  let column ← sum? 32 lcd.scrollX.toNat x
  lcd.checkedMapColor lcd.backgroundMapHigh (column % 256) (row % 256)

/-- The window's color number at a column, where the window has a column. -/
def checkedWindowColor (x below : Nat) : Option Nat := do
  let left ← signed? 32 (lcd.windowX.toNat - 7)
  let column ← signed? 32 (x - left)
  if column < 0 then pure below
  else lcd.checkedMapColor lcd.windowMapHigh column.toNat lcd.windowLine.toNat

/-- The color number below the sprites. -/
def checkedLayerColor (x : Nat) : Option Nat :=
  if lcd.backgroundEnabled then do
    let below ← lcd.checkedBackgroundColor x
    if lcd.windowVisible then lcd.checkedWindowColor x below else pure below
  else pure 0

/-- The sprites of the line, front to back. There is room for ten. -/
def checkedSpriteOrder : Option (List (Fin spriteCount)) := do
  let _ ← lcd.lineSprites.mapM fun index => do
    let start ← product? 32 4 index.val
    let place ← sum? 32 start 1
    lcd.oam[place]?
  if lcd.lineSprites.length ≤ spritesPerLine then
    pure (lcd.lineSprites.foldr lcd.insertSprite [])
  else none

/-- An entry of the sprite table. -/
def checkedSprite (index : Fin spriteCount) : Option Sprite := do
  let start ← product? 32 4 index.val
  let stop ← sum? 32 start 4
  let entry ← slice? lcd.oam.toArray start stop
  let y ← entry[0]?
  let x ← entry[1]?
  let tile ← entry[2]?
  let attributes ← entry[3]?
  pure { y, x, tile, attributes }

/-- The row of a sprite's picture that is on the line. -/
def Sprite.checkedRow (sprite : Sprite) (tall : Bool) (row : Int) : Option Int :=
  if sprite.flippedY then do
    let last ← signed? 16 (height tall - 1)
    signed? 16 (last - row)
  else pure row

/-- The column of a sprite's picture that is at a column of the screen. -/
def Sprite.checkedColumn (sprite : Sprite) (column : Int) : Option Int :=
  if sprite.flippedX then signed? 16 (7 - column) else pure column

/-- The color number in a sprite's picture, at a row and a column that it has. -/
def checkedPictureColor (sprite : Sprite) (row column : Int) : Option Nat := do
  let pictureRow ← sprite.checkedRow lcd.lineSpritesTall row
  let pictureColumn ← sprite.checkedColumn column
  let tile := if lcd.lineSpritesTall then sprite.tile.toNat / 2 * 2 else sprite.tile.toNat
  let start ← product? 32 16 tile
  let rowIndex ← index? pictureRow
  let columnIndex ← index? pictureColumn
  lcd.checkedTileColor start rowIndex columnIndex

/-- The color number of a sprite at a pixel, zero where it has none. -/
def checkedSpriteColor (index : Fin spriteCount) (x : Nat) : Option Nat := do
  let sprite ← lcd.checkedSprite index
  let left ← signed? 16 (sprite.x.toNat - 8)
  let right ← signed? 16 (left + 8)
  if x < left ∨ right ≤ x then pure 0
  else do
    let top ← signed? 16 (sprite.y.toNat - 16)
    let row ← signed? 16 (lcd.line - top)
    if row < 0 ∨ Sprite.height lcd.lineSpritesTall ≤ row then pure 0
    else do
      let column ← signed? 16 (x - left)
      lcd.checkedPictureColor sprite row column

/-- The frontmost sprite that is not transparent at a column, with its color
number. -/
def checkedSpriteAt (order : List (Fin spriteCount)) (x : Nat) :
    Option (Option (Fin spriteCount × Nat)) :=
  order.findSomeM? fun index => do
    let color ← lcd.checkedSpriteColor index x
    pure (if color = 0 then none else some (index, color))

/-- The shade at a column. -/
def checkedPixelShade (order : List (Fin spriteCount)) (x : Nat) : Option Nat := do
  let below ← lcd.checkedLayerColor x
  let shade ← checkedShade lcd.backgroundPalette below
  let owner ← lcd.checkedSpriteAt order x
  match owner with
  | none => pure shade
  | some (index, color) => do
    let sprite ← lcd.checkedSprite index
    if sprite.behindBackground ∧ below ≠ 0 then pure shade
    else checkedShade (lcd.spritePalette sprite) color

/-- The sprites that are drawn on the line. -/
def checkedOrder : Option (List (Fin spriteCount)) :=
  if lcd.spritesEnabled then lcd.checkedSpriteOrder else pure []

/-- The pixels of the line. -/
def checkedLineRow : Option Row := do
  let order ← lcd.checkedOrder
  Vector.ofFnM fun x => do
    let shade ← lcd.checkedPixelShade order x.val
    place? 4 shade

/-- The row of a frame that a line is drawn into, as a part of all its pixels. -/
def checkedRowPlace (line : Nat) : Option (Fin screenHeight) := do
  let start ← product? 32 line screenWidth
  let next ← sum? 32 line 1
  let stop ← product? 32 next screenWidth
  if start ≤ stop ∧ stop ≤ screenHeight * screenWidth then place? screenHeight line else none

/-- Draw the current line into the frame under way, and count the window's rows. -/
def checkedDrawLine : Option Lcd := do
  let row ← lcd.checkedLineRow
  let place ← checkedRowPlace lcd.line
  let windowLine := if lcd.windowVisible then lcd.windowLine + 1 else lcd.windowLine
  pure { lcd with drawn := lcd.drawn.setRow place row, windowLine }

/-! ## Tiles -/

theorem checkedShade_eq (palette : Byte) {color : Nat} (inside : color < 4) :
    checkedShade palette color = some (Scene.shade palette color) := by
  have four : 4 ^ color = 2 ^ (color * 2) := by rw [Nat.mul_comm, Nat.pow_mul]
  rw [checkedShade, product?_of_lt (by omega), Option.bind_eq_bind, Option.bind_some,
    shiftRight?_of_lt (by omega), Option.bind_some, Scene.shade, four]
  rfl

theorem checkedTileColor_eq {start row column : Nat} (inside : start + 2 * row + 1 < 0x2000)
    (columns : column < 8) :
    lcd.checkedTileColor start row column = some (lcd.scene.tileColor start row column) := by
  have low := lcd.video_scene (by omega : start + 2 * row < 0x2000)
  have high := lcd.video_scene inside
  have low_cell := lcd.vram.getElem?_eq_getElem (by omega : start + 2 * row < 0x2000)
  have high_cell := lcd.vram.getElem?_eq_getElem inside
  rw [checkedTileColor]
  simp (disch := omega) only [product?_of_lt, sum?_of_lt, difference?_of_le, shiftRight?_of_lt,
    shiftLeft?_of_lt, low_cell, high_cell, Option.bind_eq_bind, Option.bind_some]
  rw [Scene.tileColor, low, high, Option.pure_def, Option.some_inj]
  omega

theorem signedByte_mem (byte : Byte) : -128 ≤ signedByte byte ∧ signedByte byte < 128 := by
  have := byte.toNat_lt
  unfold signedByte
  split <;> omega

theorem checkedTileStart_eq (number : Byte) :
    lcd.checkedTileStart number = some (lcd.scene.tileStart number.toNat) := by
  have := number.toNat_lt
  have signed := signedByte_mem number
  have counting : lcd.scene.control.bit 4 = lcd.tilesUnsigned := rfl
  rw [checkedTileStart, Scene.tileStart, counting]
  by_cases unsigned : lcd.tilesUnsigned = true
  · rw [if_pos unsigned, if_pos unsigned, product?_of_lt (by omega), Nat.mul_comm]
  · rw [if_neg unsigned, if_neg unsigned]
    simp (disch := omega) only [signed?_of_mem, index?_of_nonneg, Option.bind_eq_bind,
      Option.bind_some]
    rw [signedByte, Int.mul_comm]

theorem exists_checkedMapNumber (high : Bool) {x y : Nat} (columns : x < 256)
    (rows : y < 256) :
    ∃ number, lcd.checkedMapNumber high x y = some number ∧
      number.toNat = lcd.scene.video (mapStart high + 32 * (y / 8) + x / 8) := by
  have := mapStart_le high
  have inside : mapStart high + 32 * (y / 8) + x / 8 < 0x2000 := by omega
  refine ⟨lcd.vram[mapStart high + 32 * (y / 8) + x / 8], ?_, (lcd.video_scene inside).symm⟩
  rw [checkedMapNumber]
  simp (disch := omega) only [product?_of_lt, sum?_of_lt, Option.bind_eq_bind,
    Option.bind_some]
  exact lcd.vram.getElem?_eq_getElem inside

theorem tileStart_le (number : Byte) : lcd.scene.tileStart number.toNat ≤ 0x17F0 := by
  have : (lcd.mapTile number).val < 384 := (lcd.mapTile number).isLt
  rw [tileStart_scene]
  omega

theorem checkedMapColor_eq (high : Bool) {x y : Nat} (columns : x < 256) (rows : y < 256) :
    lcd.checkedMapColor high x y = some (lcd.scene.mapColor high x y) := by
  obtain ⟨number, found, value⟩ := lcd.exists_checkedMapNumber high columns rows
  have inside := lcd.tileStart_le number
  have start : (if high then 0x1C00 else 0x1800) = mapStart high := by cases high <;> rfl
  rw [checkedMapColor, found, Option.bind_eq_bind, Option.bind_some, checkedTileStart_eq,
    Option.bind_eq_bind, Option.bind_some, checkedTileColor_eq lcd (by omega) (by omega),
    Scene.mapColor, start, ← value]

/-! ## Below the sprites -/

variable {x : Nat}

theorem checkedBackgroundColor_eq (visible : lcd.line < screenHeight) (column : x < screenWidth) :
    lcd.checkedBackgroundColor x =
      some (lcd.scene.mapColor (lcd.scene.control.bit 3) ((lcd.scene.scrollX.toNat + x) % 256)
        ((lcd.scene.scrollY.toNat + lcd.line) % 256)) := by
  have := lcd.scrollX.toNat_lt
  have := lcd.scrollY.toNat_lt
  simp only [screenHeight, screenWidth] at visible column
  rw [checkedBackgroundColor]
  simp (disch := omega) only [sum?_of_lt, Option.bind_eq_bind, Option.bind_some,
    checkedMapColor_eq]
  rfl

theorem checkedWindowColor_eq (column : x < screenWidth) (below : Nat) :
    lcd.checkedWindowColor x below =
      some (if lcd.windowX.toNat ≤ x + 7 then
        lcd.scene.mapColor (lcd.scene.control.bit 6) (x + 7 - lcd.scene.windowX.toNat)
          lcd.windowLine.toNat
      else below) := by
  have := lcd.windowX.toNat_lt
  have := lcd.windowLine.toNat_lt
  simp only [screenWidth] at column
  rw [checkedWindowColor]
  simp (disch := omega) only [signed?_of_mem, Option.bind_eq_bind, Option.bind_some]
  by_cases covers : lcd.windowX.toNat ≤ x + 7
  · have place : ((x : Int) - (lcd.windowX.toNat - 7)).toNat = x + 7 - lcd.windowX.toNat := by
      omega
    rw [if_neg (by omega), if_pos covers, place, checkedMapColor_eq lcd _ (by omega) (by omega)]
    rfl
  · rw [if_pos (by omega), if_neg covers]
    rfl

theorem checkedLayerColor_eq (visible : lcd.line < screenHeight) (column : x < screenWidth) :
    lcd.checkedLayerColor x = some (lcd.layerColor x).val := by
  have enabled : lcd.scene.control.bit 0 = lcd.backgroundEnabled := rfl
  rw [val_layerColor lcd column, Scene.layerColor, enabled, checkedLayerColor]
  by_cases lit : lcd.backgroundEnabled = true
  · have covers : lcd.scene.WindowCovers x lcd.line ↔
        lcd.windowVisible = true ∧ lcd.windowX.toNat ≤ x + 7 := by
      have equal := lcd.windowVisible_eq (x := x)
      rw [lit, Bool.true_and, Bool.eq_iff_iff] at equal
      simpa using equal.symm
    rw [if_pos lit, if_neg (by rw [lit]; exact Bool.noConfusion),
      checkedBackgroundColor_eq lcd visible column, Option.bind_eq_bind, Option.bind_some]
    by_cases shown : lcd.windowVisible = true
    · rw [if_pos shown, checkedWindowColor_eq lcd column]
      by_cases reaches : lcd.windowX.toNat ≤ x + 7
      · rw [if_pos reaches, if_pos (covers.mpr ⟨shown, reaches⟩)]
      · rw [if_neg reaches, if_neg fun both => reaches (covers.mp both).2]
    · rw [if_neg shown, if_neg fun both => shown (covers.mp both).1]
      rfl
  · rw [if_neg lit, if_pos (Bool.eq_false_of_not_eq_true lit)]
    rfl

/-! ## Sprites -/

theorem checkedSpriteOrder_eq (few : lcd.lineSprites.length ≤ spritesPerLine) :
    lcd.checkedSpriteOrder = some (lcd.lineSprites.foldr lcd.insertSprite []) := by
  rw [checkedSpriteOrder, mapM_of_forall fun index => (lcd.sprite index).x,
    Option.bind_eq_bind, Option.bind_some, if_pos few]
  · rfl
  · intro index
    have : index.val < 40 := index.isLt
    simp (disch := omega) only [product?_of_lt, sum?_of_lt, Option.bind_eq_bind,
      Option.bind_some]
    exact Vector.getElem?_eq_getElem (by omega)

theorem checkedSprite_eq (index : Fin spriteCount) :
    lcd.checkedSprite index = some (lcd.sprite index) := by
  have : index.val < 40 := index.isLt
  have cells : lcd.oam.toArray.size = 0xA0 := lcd.oam.size_toArray
  have field {offset : Nat} (inside : offset < 4) :
      (lcd.oam.toArray.extract (4 * index.val) (4 * index.val + 4))[offset]? =
        some lcd.oam[4 * index.val + offset] := by
    rw [Array.getElem?_extract, if_pos (by omega), Vector.getElem?_toArray]
    exact Vector.getElem?_eq_getElem (by omega)
  rw [checkedSprite]
  simp (disch := omega) only [product?_of_lt, sum?_of_lt, slice?_of_le, field,
    Option.bind_eq_bind, Option.bind_some]
  rfl

theorem checkedRow_eq {sprite : Sprite} {tall : Bool} {y : Nat}
    (reaches : sprite.onLine tall y = true) :
    sprite.checkedRow tall ((y : Int) - (sprite.y.toNat - 16)) =
      some (sprite.pictureRow tall y : Int) := by
  have rows : Sprite.height tall ≤ 16 := by cases tall <;> decide
  simp only [Sprite.onLine, Bool.and_eq_true, decide_eq_true_eq] at reaches
  rw [Sprite.checkedRow, Sprite.pictureRow]
  by_cases flipped : sprite.flippedY = true
  · simp (disch := omega) only [if_pos flipped, signed?_of_mem, Option.bind_eq_bind,
      Option.bind_some]
    rw [Option.some_inj]
    omega
  · simp only [if_neg flipped, Option.pure_def, Option.some_inj]
    omega

theorem checkedColumn_eq {sprite : Sprite} {x : Nat} (covers : sprite.onColumn x = true) :
    sprite.checkedColumn ((x : Int) - (sprite.x.toNat - 8)) =
      some (sprite.pictureColumn x : Int) := by
  simp only [Sprite.onColumn, Bool.and_eq_true, decide_eq_true_eq] at covers
  rw [Sprite.checkedColumn, Sprite.pictureColumn]
  by_cases flipped : sprite.flippedX = true
  · simp (disch := omega) only [if_pos flipped, signed?_of_mem]
    rw [Option.some_inj]
    omega
  · simp only [if_neg flipped, Option.pure_def, Option.some_inj]
    omega

theorem checkedPictureColor_eq {index : Fin spriteCount}
    (reaches : (lcd.sprite index).onLine lcd.lineSpritesTall lcd.line = true)
    (covers : (lcd.sprite index).onColumn x = true) :
    lcd.checkedPictureColor (lcd.sprite index)
        (lcd.line - ((lcd.sprite index).y.toNat - 16)) (x - ((lcd.sprite index).x.toNat - 8)) =
      some ((lcd.sprite index).color lcd.vram lcd.lineSpritesTall lcd.line x).val := by
  have := (lcd.sprite index).tile.toNat_lt
  have rows := pictureRow_lt reaches
  have most : Sprite.height lcd.lineSpritesTall ≤ 16 := by
    cases lcd.lineSpritesTall <;> decide
  obtain ⟨-, -, tile, -⟩ := lcd.entry_scene index
  rw [checkedPictureColor, checkedRow_eq reaches, checkedColumn_eq covers, val_color lcd reaches
    covers, Scene.spriteColor, tile, pictureRow_scene, pictureColumn_scene]
  have place : (if lcd.lineSpritesTall then (lcd.sprite index).tile.toNat / 2 * 2
      else (lcd.sprite index).tile.toNat) < 256 := by
    split <;> omega
  generalize (if lcd.lineSpritesTall then (lcd.sprite index).tile.toNat / 2 * 2
    else (lcd.sprite index).tile.toNat) = start at place ⊢
  simp (disch := omega) only [product?_of_lt, index?_of_nonneg, Int.toNat_natCast,
    Option.bind_eq_bind, Option.bind_some]
  exact lcd.checkedTileColor_eq (by omega) (pictureColumn_lt covers)

theorem onColumn_iff {sprite : Sprite} :
    sprite.onColumn x = true ↔ sprite.x.toNat ≤ x + 8 ∧ x < sprite.x.toNat := by
  simp only [Sprite.onColumn, Bool.and_eq_true, decide_eq_true_eq]

theorem onLine_iff {sprite : Sprite} {tall : Bool} {y : Nat} :
    sprite.onLine tall y = true ↔
      sprite.y.toNat ≤ y + 16 ∧ y + 16 < sprite.y.toNat + Sprite.height tall := by
  simp only [Sprite.onLine, Bool.and_eq_true, decide_eq_true_eq]

theorem checkedSpriteColor_eq (visible : lcd.line < screenHeight) (x : Nat)
    (index : Fin spriteCount) :
    lcd.checkedSpriteColor index x =
      some ((lcd.sprite index).color lcd.vram lcd.lineSpritesTall lcd.line x).val := by
  have := (lcd.sprite index).x.toNat_lt
  have := (lcd.sprite index).y.toNat_lt
  simp only [screenHeight] at visible
  simp only [checkedSpriteColor, checkedSprite_eq, Option.bind_eq_bind, Option.bind_some]
  rw [signed?_of_mem (by omega) (by omega), Option.bind_some,
    signed?_of_mem (by omega) (by omega), Option.bind_some]
  by_cases covers : (lcd.sprite index).onColumn x = true
  · have on_column := onColumn_iff.mp covers
    rw [if_neg (by omega), signed?_of_mem (by omega) (by omega), Option.bind_some,
      signed?_of_mem (by omega) (by omega), Option.bind_some]
    by_cases reaches : (lcd.sprite index).onLine lcd.lineSpritesTall lcd.line = true
    · have on_line := onLine_iff.mp reaches
      rw [if_neg (by omega), signed?_of_mem (by omega) (by omega), Option.bind_some]
      exact lcd.checkedPictureColor_eq reaches covers
    · have off_line := mt onLine_iff.mpr reaches
      rw [if_pos (by omega), Sprite.color, if_neg (by simp [reaches])]
      rfl
  · have off_column := mt onColumn_iff.mpr covers
    rw [if_pos (by omega), Sprite.color, if_neg (by simp [covers])]
    rfl

/-! ## A line -/

theorem checkedSpriteAt_eq (visible : lcd.line < screenHeight) (x : Nat)
    (order : List (Fin spriteCount)) :
    lcd.checkedSpriteAt order x =
      some ((order.find? fun index => !decide
        ((lcd.sprite index).color lcd.vram lcd.lineSpritesTall lcd.line x = 0)).map fun index =>
          (index,
            ((lcd.sprite index).color lcd.vram lcd.lineSpritesTall lcd.line x).val)) := by
  rw [checkedSpriteAt, findSomeM?_of_forall fun index =>
    if (lcd.sprite index).color lcd.vram lcd.lineSpritesTall lcd.line x = 0 then none
    else some (index, ((lcd.sprite index).color lcd.vram lcd.lineSpritesTall lcd.line x).val)]
  · rw [findSome?_ite]
  · intro index
    rw [checkedSpriteColor_eq lcd visible x index, Option.bind_eq_bind, Option.bind_some,
      Option.pure_def]
    simp only [Fin.ext_iff]
    rfl

theorem checkedPixelShade_eq (visible : lcd.line < screenHeight) (column : x < screenWidth)
    (order : List (Fin spriteCount)) :
    lcd.checkedPixelShade order x = some (lcd.pixelShade (order.map lcd.sprite) x).val := by
  have shade (palette : Byte) (color : Color) :
      checkedShade palette color.val = some (paletteShade palette color).val := by
    rw [val_paletteShade]
    exact checkedShade_eq palette color.isLt
  rw [pixelShade, spriteAt?_map]
  simp only [checkedPixelShade, checkedLayerColor_eq lcd visible column, shade,
    checkedSpriteAt_eq lcd visible, Option.bind_eq_bind, Option.bind_some]
  cases order.find? _ with
  | none => rfl
  | some index =>
      have hides : ((lcd.sprite index).behindBackground && lcd.layerColor x != 0) = true ↔
          (lcd.sprite index).behindBackground = true ∧ (lcd.layerColor x).val ≠ 0 := by
        rw [Bool.and_eq_true, bne_iff_ne, Ne, Fin.ext_iff]
        rfl
      simp only [Option.map_some, checkedSprite_eq, Option.bind_some, shade]
      by_cases hidden : (lcd.sprite index).behindBackground = true ∧ (lcd.layerColor x).val ≠ 0
      · rw [if_pos hidden, if_pos (hides.mpr hidden)]
        rfl
      · rw [if_neg hidden, if_neg (mt hides.mp hidden)]

theorem checkedLineRow_eq (visible : lcd.line < screenHeight)
    (few : lcd.lineSprites.length ≤ spritesPerLine) :
    lcd.checkedLineRow = some lcd.lineRow := by
  have pixels (order : List (Fin spriteCount)) :
      (Vector.ofFnM fun x : Fin screenWidth => do
        let shade ← lcd.checkedPixelShade order x.val
        place? 4 shade) =
      some (Vector.ofFn fun x => lcd.pixelShade (order.map lcd.sprite) x.val) := by
    refine ofFnM_of_forall fun x => ?_
    rw [checkedPixelShade_eq lcd visible x.isLt, Option.bind_eq_bind, Option.bind_some,
      place?_of_lt (Fin.isLt _)]
  rw [checkedLineRow, lineRow, checkedOrder]
  by_cases sprites : lcd.spritesEnabled = true
  · rw [if_pos sprites, if_pos sprites, checkedSpriteOrder_eq lcd few, Option.bind_eq_bind,
      Option.bind_some, pixels, spriteOrder]
  · rw [if_neg sprites, if_neg sprites, Option.pure_def, Option.bind_eq_bind,
      Option.bind_some, pixels, List.map_nil]

theorem checkedRowPlace_eq {line : Nat} (visible : line < screenHeight) :
    checkedRowPlace line = some ⟨line, visible⟩ := by
  have inside : (line + 1) * screenWidth ≤ screenHeight * screenWidth :=
    Nat.mul_le_mul_right screenWidth visible
  have pixels : screenHeight * screenWidth < 2 ^ 32 := by decide
  have ordered : line * screenWidth ≤ (line + 1) * screenWidth :=
    Nat.mul_le_mul_right screenWidth (Nat.le_succ line)
  have narrow : line + 1 < 2 ^ 32 := Nat.lt_of_le_of_lt visible (by decide)
  simp only [checkedRowPlace, Option.bind_eq_bind]
  rw [product?_of_lt (by omega), Option.bind_some, sum?_of_lt narrow, Option.bind_some,
    product?_of_lt (by omega), Option.bind_some, if_pos ⟨ordered, inside⟩,
    place?_of_lt visible]

example : checkedRowPlace screenHeight = none := by
  decide

/-- A line above the screen's end is drawn without fail, with at most ten sprites. -/
theorem checkedDrawLine_eq (visible : lcd.line < screenHeight)
    (few : lcd.lineSprites.length ≤ spritesPerLine) :
    lcd.checkedDrawLine = some lcd.drawLine := by
  rw [checkedDrawLine, checkedLineRow_eq lcd visible few, checkedRowPlace_eq visible,
    drawLine, dif_pos visible]
  rfl

end GameBoy.Lcd
