import GameBoy.Picture.Frame

/-!
# Gray maps

A frame as a binary portable gray map: a text line with the kind of the file,
one with the size, one with the greatest gray value, then one byte a pixel.
-/

namespace GameBoy.Graymap

/-- The gray value of a shade; the lightest shade is white. -/
def gray : Shade → Byte
  | 0 => 0xFF
  | 1 => 0xAA
  | 2 => 0x55
  | 3 => 0x00

/-- The text in front of the pixels. -/
def head : String := s!"P5\n{screenWidth} {screenHeight}\n255\n"

/-- The gray map of a frame. -/
def encode (frame : Frame) : Array Byte :=
  head.toUTF8.data ++ frame.pixels.toArray.map gray

end GameBoy.Graymap
