/-!
# Bytes and words

The machine computes on 8-bit bytes and 16-bit words, both modulo their width.
This module holds the arithmetic that joins them: a word as a high and a low
byte, single bits of a byte, and a byte read as a signed displacement. The
lemmas say the same in the natural numbers, where a word is
`256 * high + low`.
-/

namespace GameBoy

/-- An 8-bit value; arithmetic wraps modulo 256. -/
abbrev Byte := UInt8

/-- A 16-bit value or address; arithmetic wraps modulo 65536. -/
abbrev Word := UInt16

namespace Word

/-- The word whose upper eight bits are `high` and whose lower eight are `low`. -/
def ofBytes (high low : Byte) : Word :=
  high.toUInt16 * 256 + low.toUInt16

/-- The upper eight bits. -/
def high (word : Word) : Byte := (word / 256).toUInt8

/-- The lower eight bits. -/
def low (word : Word) : Byte := word.toUInt8

@[simp] theorem toNat_ofBytes (high low : Byte) :
    (ofBytes high low).toNat = 256 * high.toNat + low.toNat := by
  have := high.toNat_lt
  have := low.toNat_lt
  simp [ofBytes]
  omega

@[simp] theorem toNat_high (word : Word) : word.high.toNat = word.toNat / 256 := by
  have := word.toNat_lt
  simp [high]
  omega

@[simp] theorem toNat_low (word : Word) : word.low.toNat = word.toNat % 256 := by
  simp [low]

@[simp] theorem high_ofBytes (high low : Byte) : (ofBytes high low).high = high := by
  have := low.toNat_lt
  apply UInt8.toNat_inj.mp
  simp
  omega

@[simp] theorem low_ofBytes (high low : Byte) : (ofBytes high low).low = low := by
  apply UInt8.toNat_inj.mp
  simp

/-- A word is its two bytes. -/
@[simp] theorem ofBytes_high_low (word : Word) : ofBytes word.high word.low = word := by
  apply UInt16.toNat_inj.mp
  simp
  omega

/-- A byte as a two's-complement displacement: values from 0x80 up stand for
the byte minus 256. -/
def ofSigned (displacement : Byte) : Word :=
  if displacement < 0x80 then displacement.toUInt16 else displacement.toUInt16 + 0xFF00

end Word

namespace Byte

/-- Whether bit `index` is set. -/
def bit (byte : Byte) (index : Nat) : Bool := byte.toNat.testBit index

/-- The byte with bit `index` set. -/
def set (byte : Byte) (index : Fin 8) : Byte := byte ||| (1 <<< UInt8.ofNat index)

/-- The byte with bit `index` cleared. -/
def clear (byte : Byte) (index : Fin 8) : Byte := byte &&& ~~~(1 <<< UInt8.ofNat index)

theorem and_or_distrib_right (left right mask : Byte) :
    (left ||| right) &&& mask = left &&& mask ||| right &&& mask := by
  rw [← UInt8.toBitVec_inj]
  exact BitVec.and_or_distrib_right

end Byte

end GameBoy
