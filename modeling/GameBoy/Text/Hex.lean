import GameBoy.Word

/-!
# Hexadecimal text

Bytes and words are written in upper case behind `0x`, at full width: two
digits for a byte and four for a word.
-/

namespace GameBoy

namespace Text

/-- The upper-case hexadecimal digit of a number below sixteen. -/
def hexDigit (value : Nat) : Char :=
  if value < 10 then Char.ofNat (0x30 + value) else Char.ofNat (0x37 + value)

/-- The last `width` hexadecimal digits of a number, most significant first. -/
def hexDigits : (width value : Nat) → List Char
  | 0, _ => []
  | width + 1, value => hexDigits width (value / 16) ++ [hexDigit (value % 16)]

@[simp] theorem length_hexDigits (width value : Nat) :
    (hexDigits width value).length = width := by
  induction width generalizing value with
  | zero => rfl
  | succ width ih => simp [hexDigits, ih]

end Text

/-- Two digits behind `0x`. -/
def Byte.hex (byte : Byte) : String := "0x" ++ String.ofList (Text.hexDigits 2 byte.toNat)

/-- Four digits behind `0x`. -/
def Word.hex (word : Word) : String := "0x" ++ String.ofList (Text.hexDigits 4 word.toNat)

end GameBoy
