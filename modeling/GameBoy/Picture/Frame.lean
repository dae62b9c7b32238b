import GameBoy.Word

/-!
# Frames

A frame is a picture of 144 rows with 160 pixels each. A pixel is one of four
shades, zero the lightest.
-/

namespace GameBoy

/-- Pixels in a row. -/
def screenWidth : Nat := 160

/-- Rows in a frame. -/
def screenHeight : Nat := 144

/-- One of four shades, from the lightest to the darkest. -/
abbrev Shade := Fin 4

/-- Shades are written as numbers. -/
instance (value : Nat) : OfNat Shade value := Fin.instOfNat

/-- One row of pixels. -/
abbrev Row := Vector Shade screenWidth

/-- A whole picture, top row first. -/
structure Frame where
  rows : Vector Row screenHeight
  deriving DecidableEq

namespace Frame

/-- The picture that shows the lightest shade everywhere. -/
def blank : Frame :=
  { rows := Vector.replicate screenHeight (Vector.replicate screenWidth 0) }

/-- The shade at a column and a row. -/
def pixel (frame : Frame) (x : Fin screenWidth) (y : Fin screenHeight) : Shade :=
  frame.rows[y][x]

/-- Replace a row. -/
def setRow (frame : Frame) (y : Fin screenHeight) (row : Row) : Frame :=
  { frame with rows := frame.rows.set y row }

/-- All pixels, row after row. -/
def pixels (frame : Frame) : Vector Shade (screenHeight * screenWidth) :=
  frame.rows.flatten

@[simp] theorem pixel_blank (x : Fin screenWidth) (y : Fin screenHeight) :
    blank.pixel x y = 0 := by
  simp [pixel, blank]

theorem pixel_setRow (frame : Frame) (row : Row) (x : Fin screenWidth)
    (y z : Fin screenHeight) :
    (frame.setRow y row).pixel x z = if y = z then row[x] else frame.pixel x z := by
  simp only [pixel, setRow, Fin.getElem_fin, Vector.getElem_set, Fin.val_inj]
  split <;> rfl

end Frame

end GameBoy
