import GameBoy.Picture.Graymap

/-!
# Reading gray maps

A gray map is its head, which is the same for every frame, and behind it one gray value a
pixel, row after row. The four gray values are different, so that the shades can be read back
from the bytes.
-/

namespace GameBoy

theorem Frame.getElem?_pixels (frame : Frame) (x : Fin screenWidth) (y : Fin screenHeight) :
    frame.pixels.toArray[160 * y.val + x.val]? = some (frame.pixel x y) := by
  have column : x.val < 160 := x.isLt
  have row : y.val < 144 := y.isLt
  have inside : 160 * y.val + x.val < screenHeight * screenWidth := by
    simp only [screenHeight, screenWidth]
    omega
  have place : (160 * y.val + x.val) / screenWidth = y.val ∧
      (160 * y.val + x.val) % screenWidth = x.val := by
    simp only [screenWidth]
    omega
  rw [Array.getElem?_eq_getElem (by rwa [Vector.size_toArray]), Vector.getElem_toArray, pixels,
    Vector.getElem_flatten inside]
  simp only [place]
  rfl

namespace Graymap

/-- The shade that a gray value stands for. -/
def shade? : Byte → Option Shade
  | 0xFF => some 0
  | 0xAA => some 1
  | 0x55 => some 2
  | 0x00 => some 3
  | _ => none

theorem shade?_gray (shade : Shade) : shade? (gray shade) = some shade := by
  revert shade
  decide

/-- The bytes show a frame: a head of 15 bytes, and then 23040 gray values, row after row. -/
structure Shows (content : Array Byte) (frame : Frame) : Prop where
  size : content.size = 15 + 23040
  head : content.extract 0 15 = "P5\n160 144\n255\n".toUTF8.data
  pixel : ∀ (x : Fin screenWidth) (y : Fin screenHeight),
    content[15 + (160 * y.val + x.val)]?.bind shade? = some (frame.pixel x y)

theorem head_eq : head.toUTF8.data = "P5\n160 144\n255\n".toUTF8.data := by
  decide +kernel

theorem size_head : head.toUTF8.data.size = 15 := by
  decide +kernel

theorem shows_encode (frame : Frame) : Shows (encode frame) frame where
  size := by
    rw [encode, Array.size_append, size_head, Array.size_map, Vector.size_toArray]
    rfl
  head := by
    rw [encode, ← size_head, Array.extract_append, Array.extract_size, Nat.sub_self,
      Array.extract_zero, Array.append_empty, head_eq]
  pixel x y := by
    rw [encode, Array.getElem?_append_right (by rw [size_head]; omega), size_head,
      Nat.add_sub_cancel_left, Array.getElem?_map, frame.getElem?_pixels, Option.map_some,
      Option.bind_some, shade?_gray]

end Graymap

end GameBoy
