import GameBoy.Proofs.Lcd.Picture

/-!
# The composition of a line

Between the scan of the sprite table and the drawing of a line the program may change
everything that the line is drawn from. Whatever state the controller is in then, the line
is composed pixel by pixel: of the layer below the sprites, and of the one sprite that owns
the pixel. That sprite is told without sorting, as the one that none of the sprites showing
there is in front of; and the sprites that a scan finds are told without scanning, as those
that are reached by the line and preceded by fewer than ten others that are.
-/

namespace GameBoy.Lcd

namespace Scene

section Composition

variable (scene : Scene)

/-- A sprite owns a pixel: of the given ones it shows there, and no other one that shows
there is in front of it. -/
structure Owns (tall : Bool) (sprites : List (Fin spriteCount)) (x y : Nat)
    (index : Fin spriteCount) : Prop where
  listed : index ∈ sprites
  shows : scene.Shows tall x y index
  foremost : ∀ other ∈ sprites, scene.Shows tall x y other →
    scene.priority index ≤ scene.priority other

/-- The window is drawn at a pixel. -/
def DrawsWindow (x y : Nat) : Prop := scene.control.bit 0 = true ∧ scene.WindowCovers x y

instance (x y : Nat) : Decidable (scene.DrawsWindow x y) :=
  inferInstanceAs (Decidable (_ ∧ _))

/-- The palette of a sprite. -/
def palette (index : Fin spriteCount) : Byte :=
  if (scene.entry index 3).testBit 4 then scene.spritePalette1 else scene.spritePalette0

/-- A row is composed of the layer below the sprites, at a given row of the window, and of
the given sprites. -/
structure Composes (sprites : List (Fin spriteCount)) (tall : Bool) (windowRow y : Nat)
    (row : Row) : Prop where
  /-- Where no sprite shows, the layer below does. -/
  bare : ∀ (x : Nat) (_ : x < screenWidth),
    (scene.control.bit 1 = true → ∀ index ∈ sprites, ¬ scene.Shows tall x y index) →
      row[x].val = shade scene.backgroundPalette (scene.layerColor windowRow x y)
  /-- A sprite behind the background leaves every color but the first in sight. -/
  hidden : ∀ (x : Nat) (_ : x < screenWidth) (index : Fin spriteCount),
    scene.control.bit 1 = true → scene.Owns tall sprites x y index →
      (scene.entry index 3).testBit 7 = true → scene.layerColor windowRow x y ≠ 0 →
        row[x].val = shade scene.backgroundPalette (scene.layerColor windowRow x y)
  /-- Elsewhere the pixel is that of its owner. -/
  owned : ∀ (x : Nat) (_ : x < screenWidth) (index : Fin spriteCount),
    scene.control.bit 1 = true → scene.Owns tall sprites x y index →
      ((scene.entry index 3).testBit 7 = false ∨ scene.layerColor windowRow x y = 0) →
        row[x].val = shade (scene.palette index) (scene.spriteColor tall index x y)

/-- The sprites that a scan finds: in table order, those that have a row on the line and
come behind fewer than ten others that have. -/
structure Finds (y : Nat) (found : List (Fin spriteCount)) : Prop where
  ascending : found.Pairwise (· < ·)
  mem_iff : ∀ index, index ∈ found ↔ scene.Reaches scene.tall index y ∧
    ((List.finRange spriteCount).filter fun other =>
      other < index ∧ scene.Reaches scene.tall other y).length < 10

end Composition

variable {scene : Scene} {tall : Bool} {sprites : List (Fin spriteCount)} {x y : Nat}

/-! ## Owners -/

theorem owner?_eq_some_iff {index : Fin spriteCount} :
    scene.owner? tall sprites x y = some index ↔ scene.Owns tall sprites x y index := by
  rw [owner?, ← Option.mem_def, List.mem_argmin_iff]
  simp only [List.mem_filter, decide_eq_true_eq, and_imp]
  constructor
  · rintro ⟨⟨listed, shows⟩, foremost, -⟩
    exact ⟨listed, shows, foremost⟩
  · rintro ⟨listed, shows, foremost⟩
    refine ⟨⟨listed, shows⟩, foremost, fun other member shown le => ?_⟩
    rw [priority_injective scene (le_antisymm le (foremost other member shown))]

theorem owner?_eq_none_iff :
    scene.owner? tall sprites x y = none ↔ ∀ index ∈ sprites, ¬ scene.Shows tall x y index := by
  rw [owner?, List.argmin_eq_none, List.filter_eq_nil_iff]
  simp only [decide_eq_true_eq]

/-- Without an owner a pixel is that of the layer below. -/
theorem linePixel_of_none {windowRow : Nat}
    (none : (if scene.control.bit 1 then scene.owner? tall sprites x y else none) = none) :
    scene.linePixel sprites tall windowRow x y =
      shade scene.backgroundPalette (scene.layerColor windowRow x y) := by
  simp only [linePixel, none]

/-- The pixel of an owner, which may be behind the background. -/
theorem linePixel_of_owns {windowRow : Nat} {index : Fin spriteCount}
    (enabled : scene.control.bit 1 = true) (owns : scene.Owns tall sprites x y index) :
    scene.linePixel sprites tall windowRow x y =
      if (scene.entry index 3).testBit 7 ∧ scene.layerColor windowRow x y ≠ 0 then
        shade scene.backgroundPalette (scene.layerColor windowRow x y)
      else shade (scene.palette index) (scene.spriteColor tall index x y) := by
  have owner := owner?_eq_some_iff.mpr owns
  simp only [linePixel, enabled, if_true, owner]
  rfl

end Scene

/-! ## Drawing -/

variable (lcd : Lcd)

theorem composes_lineRow :
    lcd.scene.Composes lcd.lineSprites lcd.lineSpritesTall lcd.windowLine.toNat lcd.line
      lcd.lineRow where
  bare x inside unseen := by
    rw [val_lineRow lcd inside]
    apply Scene.linePixel_of_none
    split
    next enabled => exact Scene.owner?_eq_none_iff.mpr (unseen enabled)
    next => rfl
  hidden x inside index enabled owns behind colored := by
    rw [val_lineRow lcd inside, Scene.linePixel_of_owns enabled owns,
      if_pos ⟨behind, colored⟩]
  owned x inside index enabled owns front := by
    rw [val_lineRow lcd inside, Scene.linePixel_of_owns enabled owns, if_neg]
    rintro ⟨behind, colored⟩
    rcases front with before | plain
    · exact nomatch behind.symm.trans before
    · exact colored plain

/-- The window is visible on a line when it is drawn at some pixel of it. -/
theorem windowVisible_iff_exists :
    lcd.windowVisible = true ↔ ∃ x : Fin screenWidth, lcd.scene.DrawsWindow x lcd.line := by
  rw [windowVisible_iff]
  constructor
  · rintro ⟨⟨lit, enabled, left⟩, reached⟩
    -- Wherever the window begins, it goes on to the last column.
    exact ⟨⟨159, by decide⟩, lit, enabled, reached, left, left⟩
  · rintro ⟨x, lit, enabled, reached, left, -⟩
    exact ⟨⟨lit, enabled, left⟩, reached⟩

/-- Drawing a line replaces its row and counts the window's rows, and does no more. -/
theorem drawLine_eq (visible : lcd.line < screenHeight) :
    lcd.drawLine =
      { lcd with
        drawn := lcd.drawn.setRow ⟨lcd.line, visible⟩ lcd.lineRow
        windowLine := if lcd.windowVisible then lcd.windowLine + 1 else lcd.windowLine } := by
  simp only [drawLine, dif_pos visible]

/-! ## Scanning -/

/-- The first values of an ascending list are those behind fewer than so many others. -/
theorem mem_take_iff {size : Nat} {values : List (Fin size)}
    (ascending : values.Pairwise (· < ·)) (count : Nat) (value : Fin size) :
    value ∈ values.take count ↔
      value ∈ values ∧ (values.filter (· < value)).length < count := by
  induction values generalizing count with
  | nil => simp
  | cons first values ih =>
      obtain ⟨least, rest⟩ := List.pairwise_cons.mp ascending
      cases count with
      | zero => simp
      | succ count =>
          rw [List.take_succ_cons, List.mem_cons, List.mem_cons, ih rest]
          by_cases same : value = first
          -- Nothing is before the first value.
          · subst same
            have none : (value :: values).filter (· < value) = [] := by
              rw [List.filter_eq_nil_iff]
              intro other member
              rcases List.mem_cons.mp member with rfl | later
              · simp
              · simpa using le_of_lt (least other later)
            rw [none, List.length_nil]
            simp
          · have before (member : value ∈ values) : ((first :: values).filter (· < value)).length =
                (values.filter (· < value)).length + 1 := by
              simp [least value member]
            constructor
            · rintro (equal | ⟨member, few⟩)
              · exact absurd equal same
              · refine ⟨.inr member, ?_⟩
                rw [before member]
                exact Nat.succ_lt_succ few
            · rintro ⟨equal | member, few⟩
              · exact absurd equal same
              · rw [before member] at few
                exact .inr ⟨member, Nat.lt_of_succ_lt_succ few⟩

theorem Scene.finds_lineSprites (scene : Scene) (y : Nat) :
    scene.Finds y (scene.lineSprites y) where
  ascending := ((List.pairwise_lt_finRange spriteCount).filter _).take
  mem_iff index := by
    have ascending := (List.pairwise_lt_finRange spriteCount).filter
      (decide <| scene.Reaches scene.tall · y)
    rw [lineSprites, mem_take_iff ascending, List.filter_filter]
    simp only [List.mem_filter, List.mem_finRange, true_and, decide_eq_true_eq, Bool.decide_and]

theorem scanSprites_eq :
    lcd.scanSprites =
      { lcd with
        lineSprites := lcd.scene.lineSprites lcd.line, lineSpritesTall := lcd.scene.tall } := by
  rw [← lineSprites_scanSprites]
  rfl

/-! ## One line -/

/-- A line is composed, in every state of the controller. Drawing it replaces its row in the
frame under way by one that is composed of the layer below the sprites, at the window's row
that was reached, and of the sprites that were found, at the height that they were found
with. The window's rows are counted if the window was drawn at some pixel, and nothing else
changes. Scanning the sprite table notes the first ten sprites on the line and their height,
and changes nothing else. -/
theorem line_composed (lcd : Lcd) (visible : lcd.line < screenHeight) :
    (∃ row : Row,
      lcd.scene.Composes lcd.lineSprites lcd.lineSpritesTall lcd.windowLine.toNat lcd.line row ∧
        lcd.drawLine =
          { lcd with
            drawn := lcd.drawn.setRow ⟨lcd.line, visible⟩ row
            windowLine :=
              if ∃ x : Fin screenWidth, lcd.scene.DrawsWindow x lcd.line then
                lcd.windowLine + 1
              else lcd.windowLine }) ∧
      ∃ found, lcd.scene.Finds lcd.line found ∧
        lcd.scanSprites =
          { lcd with lineSprites := found, lineSpritesTall := lcd.scene.tall } := by
  constructor
  · refine ⟨lcd.lineRow, lcd.composes_lineRow, ?_⟩
    simp only [drawLine_eq lcd visible, windowVisible_iff_exists]
  · exact ⟨_, lcd.scene.finds_lineSprites lcd.line, lcd.scanSprites_eq⟩

/-- A controller about to draw its eleventh line. Of the three sprites that were found one
has been moved away since, and the height of the sprites has been changed. -/
def meddled : Lcd where
  vram := ((Vector.replicate 0x2000 0).set 4 0xFF).set 16 0xF0
  oam := (((((((Vector.replicate 0xA0 0).set 12 26).set 13 20).set 14 1).set 15 0x80).set 20
    26).set 21 24).set 22 1
  control := 0xF7
  line := 10
  mode := .transfer
  dot := 252
  windowX := 150
  windowLine := 255
  backgroundPalette := 0xE4
  spritePalette0 := 0x1B
  lineSprites := [⟨2, by decide⟩, ⟨3, by decide⟩, ⟨5, by decide⟩]

/-- The sprite in front is behind the background at its left edge and transparent where it
meets the second one, which shows there. The count of the window's rows wraps. -/
theorem line_composed_of_meddled :
    meddled.line < screenHeight ∧
      meddled.drawLine.drawn.pixel ⟨12, by decide⟩ ⟨10, by decide⟩ = 1 ∧
        meddled.drawLine.drawn.pixel ⟨16, by decide⟩ ⟨10, by decide⟩ = 2 ∧
          meddled.drawLine.windowLine = 0 := by
  have visible : meddled.line < screenHeight := by decide
  obtain ⟨⟨row, composed, drawn⟩, -⟩ := line_composed meddled visible
  have first : meddled.scene.Owns false meddled.lineSprites 12 10 ⟨3, by decide⟩ :=
    Scene.owner?_eq_some_iff.mp (by decide +kernel)
  have second : meddled.scene.Owns false meddled.lineSprites 16 10 ⟨5, by decide⟩ :=
    Scene.owner?_eq_some_iff.mp (by decide +kernel)
  have hidden := composed.hidden 12 (by decide) ⟨3, by decide⟩ (by decide) first
    (by decide +kernel) (by decide +kernel)
  have owned := composed.owned 16 (by decide) ⟨5, by decide⟩ (by decide) second
    (.inl (by decide +kernel))
  have window : ∃ x : Fin screenWidth, meddled.scene.DrawsWindow x meddled.line :=
    ⟨⟨159, by decide⟩, by decide⟩
  rw [drawn, if_pos window]
  refine ⟨visible, ?_, ?_, rfl⟩
  · refine (Frame.pixel_setRow _ _ _ _ _).trans (Fin.ext (.trans ?_ (hidden.trans ?_)))
    · rfl
    · decide +kernel
  · refine (Frame.pixel_setRow _ _ _ _ _).trans (Fin.ext (.trans ?_ (owned.trans ?_)))
    · rfl
    · decide +kernel

end GameBoy.Lcd
