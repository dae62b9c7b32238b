import GameBoy.Lcd.Line
import Mathlib.Algebra.Group.Nat.Defs
import Mathlib.Data.List.MinMax
import Mathlib.Data.List.Sort
import Mathlib.Data.Prod.Lex

/-!
# Scenes

A scene is everything that a picture is drawn from: two memories and a handful of
registers. It has a picture of its own, given pixel by pixel in plain numbers,
without lines that are drawn one after another and without sprites that are
sorted. The controller's line drawing agrees with that picture.
-/

namespace GameBoy.Lcd

/-- The memories and registers that decide a picture. -/
structure Scene where
  vram : Vector Byte 0x2000
  oam : Vector Byte 0xA0
  control : Byte
  scrollY : Byte
  scrollX : Byte
  windowY : Byte
  windowX : Byte
  backgroundPalette : Byte
  spritePalette0 : Byte
  spritePalette1 : Byte

/-- The scene that a controller is about to draw. -/
def scene (lcd : Lcd) : Scene where
  vram := lcd.vram
  oam := lcd.oam
  control := lcd.control
  scrollY := lcd.scrollY
  scrollX := lcd.scrollX
  windowY := lcd.windowY
  windowX := lcd.windowX
  backgroundPalette := lcd.backgroundPalette
  spritePalette0 := lcd.spritePalette0
  spritePalette1 := lcd.spritePalette1

namespace Scene

/-! ## The picture of a scene -/

section Picture

variable (scene : Scene)

/-- A byte of the video memory. -/
def video (offset : Nat) : Nat := (scene.vram[offset]?.getD 0).toNat

/-- A byte of a sprite's entry: its row, its column, its tile, its attributes. -/
def entry (index : Fin spriteCount) (field : Nat) : Nat :=
  (scene.oam[4 * index.val + field]?.getD 0).toNat

/-- The color number in a tile that starts at an offset: the high bit is in the
second byte of the row, the leftmost column in the highest bit. -/
def tileColor (start row column : Nat) : Nat :=
  2 * (scene.video (start + 2 * row + 1) / 2 ^ (7 - column) % 2) +
    scene.video (start + 2 * row) / 2 ^ (7 - column) % 2

/-- Where a map's tile starts: numbers count from the start of the memory, or they
are signed and count from its middle. -/
def tileStart (number : Nat) : Nat :=
  if scene.control.bit 4 then 16 * number
  else (0x1000 + 16 * (if number < 128 then (number : Int) else number - 256)).toNat

/-- The color number at a point of a map. -/
def mapColor (upper : Bool) (column row : Nat) : Nat :=
  let start := if upper then 0x1C00 else 0x1800
  let number := scene.video (start + 32 * (row / 8) + column / 8)
  scene.tileColor (scene.tileStart number) (row % 8) (column % 8)

/-- The window lies over the background at a pixel. -/
def WindowCovers (x y : Nat) : Prop :=
  scene.control.bit 5 = true ∧ scene.windowY.toNat ≤ y ∧ scene.windowX.toNat ≤ 166 ∧
    scene.windowX.toNat ≤ x + 7

instance (x y : Nat) : Decidable (scene.WindowCovers x y) :=
  inferInstanceAs (Decidable (_ ∧ _ ∧ _ ∧ _))

/-- The color number below the sprites, when the line shows a given row of the
window. -/
def layerColor (windowRow x y : Nat) : Nat :=
  if scene.control.bit 0 = false then 0
  else if scene.WindowCovers x y then
    scene.mapColor (scene.control.bit 6) (x + 7 - scene.windowX.toNat) windowRow
  else
    scene.mapColor (scene.control.bit 3) ((scene.scrollX.toNat + x) % 256)
      ((scene.scrollY.toNat + y) % 256)

/-- Rows of a sprite. -/
def spriteRows (tall : Bool) : Nat := if tall then 16 else 8

/-- The first row of a sprite, which may be above the screen. -/
def top (index : Fin spriteCount) : Int := scene.entry index 0 - 16

/-- The first column of a sprite, which may be left of the screen. -/
def left (index : Fin spriteCount) : Int := scene.entry index 1 - 8

/-- A sprite has a row on the line. -/
def Reaches (tall : Bool) (index : Fin spriteCount) (y : Nat) : Prop :=
  scene.top index ≤ y ∧ y < scene.top index + spriteRows tall

instance (tall : Bool) (index : Fin spriteCount) (y : Nat) :
    Decidable (scene.Reaches tall index y) :=
  inferInstanceAs (Decidable (_ ∧ _))

/-- The row of a sprite's picture that is on the line. -/
def pictureRow (tall : Bool) (index : Fin spriteCount) (y : Nat) : Nat :=
  let row := (y - scene.top index).toNat
  if (scene.entry index 3).testBit 6 then spriteRows tall - 1 - row else row

/-- The column of a sprite's picture that is at a column of the screen. -/
def pictureColumn (index : Fin spriteCount) (x : Nat) : Nat :=
  let column := (x - scene.left index).toNat
  if (scene.entry index 3).testBit 5 then 7 - column else column

/-- The color number of a sprite at a pixel that it covers. A tall sprite starts at
an even tile. -/
def spriteColor (tall : Bool) (index : Fin spriteCount) (x y : Nat) : Nat :=
  let tile := if tall then scene.entry index 2 / 2 * 2 else scene.entry index 2
  scene.tileColor (16 * tile) (scene.pictureRow tall index y) (scene.pictureColumn index x)

/-- A sprite covers a pixel and is not transparent there. -/
def Shows (tall : Bool) (x y : Nat) (index : Fin spriteCount) : Prop :=
  scene.Reaches tall index y ∧ (scene.left index ≤ x ∧ x < scene.left index + 8) ∧
    scene.spriteColor tall index x y ≠ 0

instance (tall : Bool) (x y : Nat) (index : Fin spriteCount) :
    Decidable (scene.Shows tall x y index) :=
  inferInstanceAs (Decidable (_ ∧ _ ∧ _))

/-- What decides between sprites: the column, then the place in the table. -/
def priority (index : Fin spriteCount) : Nat ×ₗ Nat :=
  toLex (scene.entry index 1, index.val)

/-- The sprite that owns a pixel, among the given ones. -/
def owner? (tall : Bool) (sprites : List (Fin spriteCount)) (x y : Nat) :
    Option (Fin spriteCount) :=
  (sprites.filter (scene.Shows tall x y ·)).argmin scene.priority

/-- The shade that a palette gives a color number. -/
def shade (palette : Byte) (color : Nat) : Nat := palette.toNat / 4 ^ color % 4

/-- The shade of a pixel, when the line shows the given sprites and a given row of
the window. -/
def linePixel (sprites : List (Fin spriteCount)) (tall : Bool) (windowRow x y : Nat) : Nat :=
  let below := scene.layerColor windowRow x y
  match if scene.control.bit 1 then scene.owner? tall sprites x y else none with
  | none => shade scene.backgroundPalette below
  | some index =>
    if (scene.entry index 3).testBit 7 ∧ below ≠ 0 then shade scene.backgroundPalette below
    else
      shade
        (if (scene.entry index 3).testBit 4 then scene.spritePalette1
          else scene.spritePalette0)
        (scene.spriteColor tall index x y)

/-- Whether the scene's sprites are sixteen rows tall. -/
def tall : Bool := scene.control.bit 2

/-- The sprites of a line: the first ten of the table that reach it. -/
def lineSprites (y : Nat) : List (Fin spriteCount) :=
  ((List.finRange spriteCount).filter (scene.Reaches scene.tall · y)).take 10

/-- The shade of a pixel of the scene. -/
def pixel (x y : Nat) : Nat :=
  scene.linePixel (scene.lineSprites y) scene.tall (y - scene.windowY.toNat) x y

end Picture

end Scene

/-! ## Colors and shades -/

theorem val_colorOfBits (high low : Bool) :
    (colorOfBits high low).val = 2 * high.toNat + low.toNat := by
  cases high <;> cases low <;> rfl

theorem toNat_bit (byte : Byte) (index : Nat) :
    (byte.bit index).toNat = byte.toNat / 2 ^ index % 2 := by
  rw [Byte.bit, Nat.toNat_testBit]

theorem val_paletteShade (palette : Byte) (color : Color) :
    (paletteShade palette color).val = Scene.shade palette color.val := by
  rw [paletteShade, val_colorOfBits, toNat_bit, toNat_bit, Scene.shade]
  have four : 4 ^ color.val = 2 ^ (2 * color.val) := by rw [Nat.pow_mul]
  rw [four, Nat.pow_succ, ← Nat.div_div_eq_div_mul]
  omega

/-! ## Tiles -/

variable (lcd : Lcd)

theorem video_scene {offset : Nat} (inside : offset < 0x2000) :
    lcd.scene.video offset = lcd.vram[offset].toNat := by
  rw [Scene.video, scene, Vector.getElem?_eq_getElem inside, Option.getD_some]

theorem val_tileColor (tile : Fin tileCount) (row column : Fin 8) :
    (tileColor lcd.vram tile row column).val =
      lcd.scene.tileColor (16 * tile.val) row.val column.val := by
  have : tile.val < 384 := tile.isLt
  rw [tileColor, val_colorOfBits, toNat_bit, toNat_bit, Scene.tileColor,
    video_scene lcd (by omega), video_scene lcd (by omega)]

theorem tileStart_scene (number : Byte) :
    lcd.scene.tileStart number.toNat = 16 * (lcd.mapTile number).val := by
  have := number.toNat_lt
  have counting : lcd.scene.control.bit 4 = lcd.tilesUnsigned := rfl
  rw [Scene.tileStart, counting, mapTile]
  by_cases signed : lcd.tilesUnsigned = false ∧ number.toNat < 0x80
  · rw [dif_pos signed, signed.1, if_neg Bool.false_ne_true, if_pos signed.2, Fin.val_mk]
    omega
  · rw [dif_neg signed]
    by_cases unsigned : lcd.tilesUnsigned = true
    · rw [if_pos unsigned]
    · have small : ¬number.toNat < 128 :=
        fun small => signed ⟨Bool.eq_false_of_not_eq_true unsigned, small⟩
      rw [if_neg unsigned, if_neg small, Fin.val_mk]
      omega

theorem val_mapColor (high : Bool) (x y : Byte) :
    (lcd.mapColor high x y).val = lcd.scene.mapColor high x.toNat y.toNat := by
  have := x.toNat_lt
  have := y.toNat_lt
  have start : (if high then 0x1C00 else 0x1800) = mapStart high := by cases high <;> rfl
  have := mapStart_le high
  rw [mapColor, val_tileColor, ← tileStart_scene, Scene.mapColor, start,
    video_scene lcd (by omega)]
  rfl

/-! ## Below the sprites -/

theorem windowVisible_eq :
    (lcd.windowVisible && decide (lcd.windowX.toNat ≤ x + 7)) =
      (lcd.backgroundEnabled && decide (lcd.scene.WindowCovers x lcd.line)) := by
  rw [Bool.eq_iff_iff]
  simp only [windowVisible, Bool.and_eq_true, decide_eq_true_eq, and_assoc]
  rfl

theorem val_layerColor {x : Nat} (column : x < screenWidth) :
    (lcd.layerColor x).val =
      lcd.scene.layerColor lcd.windowLine.toNat x lcd.line := by
  have enabled : lcd.scene.control.bit 0 = lcd.backgroundEnabled := rfl
  rw [layerColor, Scene.layerColor, windowVisible_eq, enabled]
  cases lcd.backgroundEnabled with
  | false => rfl
  | true =>
      by_cases covers : lcd.scene.WindowCovers x lcd.line
      · have narrow : x + 7 - lcd.windowX.toNat < 256 := by
          simp only [screenWidth] at column
          omega
        simp only [covers, decide_true, Bool.and_self, Bool.not_true, Bool.false_eq_true,
          reduceCtorEq, if_true, if_false, windowColor, val_mapColor,
          UInt8.toNat_ofNat_of_lt' narrow]
        rfl
      · simp only [covers, decide_false, Bool.and_false, Bool.not_true, Bool.false_eq_true,
          reduceCtorEq, if_false, backgroundColor, val_mapColor, UInt8.toNat_add,
          UInt8.toNat_ofNat', Nat.add_mod_mod]
        rfl

/-! ## Sprites -/

theorem entry_scene (index : Fin spriteCount) :
    lcd.scene.entry index 0 = (lcd.sprite index).y.toNat ∧
      lcd.scene.entry index 1 = (lcd.sprite index).x.toNat ∧
      lcd.scene.entry index 2 = (lcd.sprite index).tile.toNat ∧
      lcd.scene.entry index 3 = (lcd.sprite index).attributes.toNat := by
  have inside : index.val < 40 := index.isLt
  simp only [Scene.entry, scene, Lcd.sprite, Nat.add_zero]
  refine ⟨?_, ?_, ?_, ?_⟩ <;>
    rw [Vector.getElem?_eq_getElem (by omega), Option.getD_some]

theorem reaches_scene (tall : Bool) (index : Fin spriteCount) (y : Nat) :
    lcd.scene.Reaches tall index y ↔ (lcd.sprite index).onLine tall y = true := by
  obtain ⟨entry, -⟩ := lcd.entry_scene index
  simp only [Scene.Reaches, Scene.top, entry, Sprite.onLine, Bool.and_eq_true,
    decide_eq_true_eq]
  have rows : Scene.spriteRows tall = Sprite.height tall := rfl
  rw [rows]
  omega

theorem covers_scene (index : Fin spriteCount) (x : Nat) :
    (lcd.scene.left index ≤ x ∧ x < lcd.scene.left index + 8) ↔
      (lcd.sprite index).onColumn x = true := by
  obtain ⟨-, entry, -⟩ := lcd.entry_scene index
  simp only [Scene.left, entry, Sprite.onColumn, Bool.and_eq_true, decide_eq_true_eq]
  omega

/-- The tile and the row that a picture's row falls into lie where the rows of the
first tile would, were it longer. -/
theorem start_pictureTile (sprite : Sprite) (tall : Bool) {row : Nat}
    (inside : row < Sprite.height tall) :
    16 * (sprite.pictureTile tall row).val + 2 * (row % 8) =
      16 * (if tall then sprite.tile.toNat / 2 * 2 else sprite.tile.toNat) + 2 * row := by
  cases tall with
  | false =>
      have : row < 8 := inside
      simp only [Sprite.pictureTile, Bool.false_eq_true, if_false]
      omega
  | true =>
      have : row < 16 := inside
      simp only [Sprite.pictureTile, if_true]
      omega

theorem pictureRow_scene (tall : Bool) (index : Fin spriteCount) (y : Nat) :
    lcd.scene.pictureRow tall index y = (lcd.sprite index).pictureRow tall y := by
  obtain ⟨entryY, -, -, entryAttributes⟩ := lcd.entry_scene index
  have row : (y - lcd.scene.top index).toNat = y + 16 - (lcd.sprite index).y.toNat := by
    rw [Scene.top, entryY]
    omega
  rw [Scene.pictureRow, row, entryAttributes]
  rfl

theorem pictureColumn_scene (index : Fin spriteCount) (x : Nat) :
    lcd.scene.pictureColumn index x = (lcd.sprite index).pictureColumn x := by
  obtain ⟨-, entryX, -, entryAttributes⟩ := lcd.entry_scene index
  have column : (x - lcd.scene.left index).toNat = x + 8 - (lcd.sprite index).x.toNat := by
    rw [Scene.left, entryX]
    omega
  rw [Scene.pictureColumn, column, entryAttributes]
  rfl

theorem pictureRow_lt {sprite : Sprite} {tall : Bool} {y : Nat}
    (reaches : sprite.onLine tall y = true) :
    sprite.pictureRow tall y < Sprite.height tall := by
  simp only [Sprite.onLine, Bool.and_eq_true, decide_eq_true_eq] at reaches
  simp only [Sprite.pictureRow]
  split <;> omega

theorem pictureColumn_lt {sprite : Sprite} {x : Nat} (covers : sprite.onColumn x = true) :
    sprite.pictureColumn x < 8 := by
  simp only [Sprite.onColumn, Bool.and_eq_true, decide_eq_true_eq] at covers
  simp only [Sprite.pictureColumn]
  split <;> omega

theorem val_color {tall : Bool} {index : Fin spriteCount} {x y : Nat}
    (reaches : (lcd.sprite index).onLine tall y = true)
    (covers : (lcd.sprite index).onColumn x = true) :
    ((lcd.sprite index).color lcd.vram tall y x).val =
      lcd.scene.spriteColor tall index x y := by
  obtain ⟨-, -, entryTile, -⟩ := lcd.entry_scene index
  have place := start_pictureTile (lcd.sprite index) tall (pictureRow_lt reaches)
  have inside := Nat.mod_eq_of_lt (pictureColumn_lt covers)
  rw [Sprite.color, reaches, covers, Scene.spriteColor, pictureRow_scene,
    pictureColumn_scene, entryTile]
  simp only [Bool.and_self, if_true, val_tileColor, inside]
  rw [Scene.tileColor, place, Scene.tileColor]

theorem color_ne_zero_iff {tall : Bool} {index : Fin spriteCount} {x y : Nat} :
    (lcd.sprite index).color lcd.vram tall y x ≠ 0 ↔ lcd.scene.Shows tall x y index := by
  rw [Scene.Shows, reaches_scene, covers_scene]
  constructor
  · intro opaque_
    by_cases both : (lcd.sprite index).onLine tall y = true ∧
        (lcd.sprite index).onColumn x = true
    · rw [← val_color lcd both.1 both.2]
      exact ⟨both.1, both.2, fun zero => opaque_ (Fin.ext zero)⟩
    · rw [← Bool.and_eq_true] at both
      rw [Sprite.color, if_neg both] at opaque_
      exact absurd rfl opaque_
  · rintro ⟨reaches, covers, color⟩ zero
    rw [← val_color lcd reaches covers, zero] at color
    exact color rfl

/-! ## Who is in front -/

section Search

/-- Searching for a value that some elements do not have is searching for an element
that has one. -/
theorem findSome?_ite {Element Value : Type} (skips : Element → Prop) [DecidablePred skips]
    (value : Element → Value) (elements : List Element) :
    (elements.findSome? fun element =>
        if skips element then none else some (value element)) =
      (elements.find? fun element => !decide (skips element)).map value := by
  induction elements with
  | nil => rfl
  | cons element elements ih =>
      rw [List.findSome?_cons, List.find?_cons]
      by_cases skipped : skips element
      · simpa [skipped] using ih
      · simp [skipped]

variable {Element Key : Type} [LinearOrder Key] {key : Element → Key}
  {found : Element → Bool}

/-- What is found first in a sorted list is least among all that could be found. -/
theorem le_of_find? {order : List Element} {least : Element}
    (sorted : order.Pairwise fun first second => key first ≤ key second)
    (result : order.find? found = some least) {element : Element}
    (member : element ∈ order) (chosen : found element = true) :
    key least ≤ key element := by
  obtain ⟨-, before, after, rfl, none_before⟩ := List.find?_eq_some_iff_append.mp result
  rcases List.mem_append.mp member with early | late
  · exact absurd chosen (by simpa using none_before element early)
  · rcases List.mem_cons.mp late with rfl | later
    · exact le_rfl
    · exact (List.pairwise_cons.mp (List.pairwise_append.mp sorted).2.1).1 element later

/-- Searching a list sorted by a key that tells elements apart finds the least one
with the property. -/
theorem find?_of_sorted [DecidableEq Element] (injective : Function.Injective key)
    {order elements : List Element}
    (sorted : order.Pairwise fun first second => key first ≤ key second)
    (same : ∀ element, element ∈ order ↔ element ∈ elements) :
    order.find? found = (elements.filter found).argmin key := by
  cases result : order.find? found with
  | none =>
      refine (List.argmin_eq_none.mpr (List.filter_eq_nil_iff.mpr ?_)).symm
      intro element member
      exact List.find?_eq_none.mp result element ((same element).mpr member)
  | some least =>
      have least_le (element : Element) (member : element ∈ elements.filter found) :
          key least ≤ key element := by
        obtain ⟨member, chosen⟩ := List.mem_filter.mp member
        exact le_of_find? sorted result ((same element).mpr member) chosen
      refine (List.mem_argmin_iff.mpr ⟨List.mem_filter.mpr ⟨?_, ?_⟩, least_le, ?_⟩).symm
      · exact (same least).mp (List.mem_of_find?_eq_some result)
      · exact List.find?_some result
      · intro element member le
        rw [injective (le_antisymm le (least_le element member))]

end Search

theorem priority_injective (scene : Scene) : Function.Injective scene.priority := by
  intro first second equal
  exact Fin.ext (congrArg (fun key => (ofLex key).2) equal)

theorem inFront_iff (first second : Fin spriteCount) :
    lcd.inFront first second = true ↔
      lcd.scene.priority first ≤ lcd.scene.priority second := by
  obtain ⟨-, firstX, -⟩ := lcd.entry_scene first
  obtain ⟨-, secondX, -⟩ := lcd.entry_scene second
  rw [Scene.priority, Scene.priority, Prod.Lex.toLex_le_toLex, firstX, secondX]
  simp only [inFront, Bool.or_eq_true, Bool.and_eq_true, decide_eq_true_eq, beq_iff_eq,
    UInt8.lt_iff_toNat_lt, ← UInt8.toNat_inj, Fin.le_def]

/-- One sprite is in front of another. -/
abbrev Ahead (first second : Fin spriteCount) : Prop :=
  lcd.scene.priority first ≤ lcd.scene.priority second

theorem insertSprite_eq (index : Fin spriteCount) (order : List (Fin spriteCount)) :
    lcd.insertSprite index order = order.orderedInsert lcd.Ahead index := by
  induction order with
  | nil => rfl
  | cons first rest ih =>
      rw [insertSprite, List.orderedInsert_cons, ih]
      simp only [inFront_iff]

theorem foldr_insertSprite :
    lcd.lineSprites.foldr lcd.insertSprite [] = lcd.lineSprites.insertionSort lcd.Ahead := by
  have same : lcd.insertSprite = List.orderedInsert lcd.Ahead := by
    funext index order
    exact lcd.insertSprite_eq index order
  rw [same, List.insertionSort]

theorem spriteAt?_map (order : List (Fin spriteCount)) (x : Nat) :
    lcd.spriteAt? (order.map lcd.sprite) x =
      (order.find? fun index => !decide
        ((lcd.sprite index).color lcd.vram lcd.lineSpritesTall lcd.line x = 0)).map fun index =>
          (lcd.sprite index, (lcd.sprite index).color lcd.vram lcd.lineSpritesTall lcd.line x) := by
  rw [spriteAt?, List.findSome?_map]
  exact findSome?_ite _ _ order

/-- The sprite that the search in front-to-back order finds is the owner. -/
theorem spriteAt?_spriteOrder (x : Nat) :
    lcd.spriteAt? lcd.spriteOrder x =
      (lcd.scene.owner? lcd.lineSpritesTall lcd.lineSprites x lcd.line).map fun index =>
        (lcd.sprite index, (lcd.sprite index).color lcd.vram lcd.lineSpritesTall lcd.line x) := by
  have total : Std.Total lcd.Ahead := ⟨fun first second => le_total _ _⟩
  have transitive : IsTrans (Fin spriteCount) lcd.Ahead := ⟨fun _ _ _ => le_trans⟩
  have shows (index : Fin spriteCount) :
      (!decide ((lcd.sprite index).color lcd.vram lcd.lineSpritesTall lcd.line x = 0)) =
        decide (lcd.scene.Shows lcd.lineSpritesTall x lcd.line index) := by
    rw [← decide_not, decide_eq_decide]
    exact lcd.color_ne_zero_iff
  rw [Scene.owner?, ← find?_of_sorted (priority_injective lcd.scene)
    (lcd.lineSprites.pairwise_insertionSort lcd.Ahead)
    fun _ => List.mem_insertionSort lcd.Ahead]
  simp only [spriteOrder, foldr_insertSprite, spriteAt?_map, shows]

/-! ## A line -/

/-- The shade of a sprite's pixel, or of the layer below it. -/
theorem val_spriteShade {tall : Bool} {index : Fin spriteCount} {x y : Nat}
    (shows : lcd.scene.Shows tall x y index) (below : Color) :
    (if (lcd.sprite index).behindBackground && below != 0 then
        paletteShade lcd.backgroundPalette below
      else
        paletteShade (lcd.spritePalette (lcd.sprite index))
          ((lcd.sprite index).color lcd.vram tall y x)).val =
      if (lcd.scene.entry index 3).testBit 7 ∧ below.val ≠ 0 then
        Scene.shade lcd.scene.backgroundPalette below.val
      else
        Scene.shade
          (if (lcd.scene.entry index 3).testBit 4 then lcd.scene.spritePalette1
            else lcd.scene.spritePalette0)
          (lcd.scene.spriteColor tall index x y) := by
  obtain ⟨reaches, covers, -⟩ := shows
  obtain ⟨-, -, -, attributes⟩ := lcd.entry_scene index
  rw [← val_color lcd ((lcd.reaches_scene tall index y).mp reaches)
    ((lcd.covers_scene index x).mp covers), attributes]
  have behind : ((lcd.sprite index).behindBackground && below != 0) = true ↔
      ((lcd.sprite index).attributes.toNat.testBit 7 = true ∧ below.val ≠ 0) := by
    rw [Bool.and_eq_true, bne_iff_ne, Ne, Fin.ext_iff]
    rfl
  by_cases hidden : (lcd.sprite index).attributes.toNat.testBit 7 = true ∧ below.val ≠ 0
  · rw [if_pos hidden, if_pos (behind.mpr hidden)]
    exact val_paletteShade _ _
  · rw [if_neg hidden, if_neg (mt behind.mp hidden)]
    exact val_paletteShade _ _

/-- The pixels of a line are those of the scene, with the sprites that were found
and the window's row that was reached. -/
theorem val_lineRow {x : Nat} (inside : x < screenWidth) :
    (lcd.lineRow[x]).val =
      lcd.scene.linePixel lcd.lineSprites lcd.lineSpritesTall lcd.windowLine.toNat x
        lcd.line := by
  have enabled : lcd.scene.control.bit 1 = lcd.spritesEnabled := rfl
  rw [lineRow, Vector.getElem_ofFn, pixelShade, Scene.linePixel,
    ← lcd.val_layerColor inside, enabled]
  by_cases sprites : lcd.spritesEnabled = true
  · rw [if_pos sprites, if_pos sprites, spriteAt?_spriteOrder]
    cases owner : lcd.scene.owner? lcd.lineSpritesTall lcd.lineSprites x lcd.line with
    | none => exact val_paletteShade _ _
    | some index =>
        have shows := of_decide_eq_true (List.mem_filter.mp (List.argmin_mem owner)).2
        exact lcd.val_spriteShade shows _
  · rw [if_neg sprites, if_neg sprites]
    exact val_paletteShade _ _

end GameBoy.Lcd
