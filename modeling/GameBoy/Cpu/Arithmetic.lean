import GameBoy.Cpu.Registers

/-!
# Arithmetic and logic

Each operation is a function on bytes, words and flags. Sums and differences
are formed in the natural numbers, so that a carry is a comparison with the
width and a borrow a comparison of the operands.
-/

namespace GameBoy.Cpu

/-- A byte and the four flags that an operation leaves. -/
structure Result where
  value : Byte
  flags : Flags
  deriving DecidableEq, Repr

/-- The eight operations between the accumulator and an operand. -/
inductive Operation where
  | add
  | adc
  | sub
  | sbc
  | and
  | xor
  | or
  | compare
  deriving DecidableEq, Repr

/-- The eight rotations, shifts and the exchange of nibbles. -/
inductive Shift where
  | rotateLeft
  | rotateRight
  | rotateLeftThroughCarry
  | rotateRightThroughCarry
  | left
  | rightArithmetic
  | swap
  | rightLogical
  deriving DecidableEq, Repr

/-- The sum of two bytes and a carry. The half carry is the carry out of the
low nibbles. -/
def addBytes (left right : Byte) (carry : Bool) : Result :=
  let sum := left.toNat + right.toNat + carry.toNat
  { value := UInt8.ofNat sum
    flags :=
      { zero := sum % 0x100 = 0
        halfCarry := 0x0F < left.toNat % 0x10 + right.toNat % 0x10 + carry.toNat
        carry := 0xFF < sum } }

/-- The difference of two bytes less a borrow. The half carry is the borrow of
the low nibbles. -/
def subtractBytes (left right : Byte) (borrow : Bool) : Result :=
  let taken := right.toNat + borrow.toNat
  let difference := (left.toNat + 0x200 - taken) % 0x100
  { value := UInt8.ofNat difference
    flags :=
      { zero := difference = 0
        subtract := true
        halfCarry := left.toNat % 0x10 < right.toNat % 0x10 + borrow.toNat
        carry := left.toNat < taken } }

/-- A bitwise result: only the zero flag depends on it. -/
def bitwise (value : Byte) (halfCarry : Bool) : Result :=
  { value, flags := { zero := value = 0, halfCarry } }

/-- The accumulator and the flags after an operation. Comparison subtracts and
keeps the accumulator. -/
def Operation.apply (operation : Operation) (accumulator operand : Byte) (carry : Bool) :
    Result :=
  match operation with
  | .add => addBytes accumulator operand false
  | .adc => addBytes accumulator operand carry
  | .sub => subtractBytes accumulator operand false
  | .sbc => subtractBytes accumulator operand carry
  | .and => bitwise (accumulator &&& operand) true
  | .xor => bitwise (accumulator ^^^ operand) false
  | .or => bitwise (accumulator ||| operand) false
  | .compare => { subtractBytes accumulator operand false with value := accumulator }

/-- The shifted byte and the bit that leaves it. -/
def Shift.move (shift : Shift) (value : Byte) (carry : Bool) : Byte × Bool :=
  match shift with
  | .rotateLeft => (value <<< 1 ||| value >>> 7, value.bit 7)
  | .rotateRight => (value >>> 1 ||| value <<< 7, value.bit 0)
  | .rotateLeftThroughCarry => (value <<< 1 ||| carry.toUInt8, value.bit 7)
  | .rotateRightThroughCarry => (value >>> 1 ||| carry.toUInt8 <<< 7, value.bit 0)
  | .left => (value <<< 1, value.bit 7)
  | .rightArithmetic => (value >>> 1 ||| value &&& 0x80, value.bit 0)
  | .swap => (value <<< 4 ||| value >>> 4, false)
  | .rightLogical => (value >>> 1, value.bit 0)

/-- A shift sets the zero flag from its result and the carry from the bit that
left. -/
def Shift.apply (shift : Shift) (value : Byte) (carry : Bool) : Result :=
  let (moved, out) := shift.move value carry
  { value := moved, flags := { zero := moved = 0, carry := out } }

/-- The correction that turns a binary sum or difference of two packed decimal
bytes into a packed decimal byte. -/
def decimalCorrection (value : Byte) (flags : Flags) : Byte :=
  let low := flags.halfCarry || (!flags.subtract && 0x09 < value &&& 0x0F)
  let high := flags.carry || (!flags.subtract && 0x99 < value)
  (if low then 0x06 else 0) ||| (if high then 0x60 else 0)

/-- Decimal adjustment after a sum or, when the subtract flag is set, after a
difference. -/
def decimalAdjust (value : Byte) (flags : Flags) : Result :=
  let correction := decimalCorrection value flags
  let adjusted := if flags.subtract then value - correction else value + correction
  { value := adjusted
    flags :=
      { zero := adjusted = 0, subtract := flags.subtract, carry := 0x60 ≤ correction } }

/-- The sum of a word and a signed displacement. Carry and half carry are those
of the low bytes added as unsigned numbers. -/
def addDisplacement (base : Word) (displacement : Byte) : Word × Flags :=
  (base + Word.ofSigned displacement,
    { halfCarry := 0x0F < base.toNat % 0x10 + displacement.toNat % 0x10
      carry := 0xFF < base.toNat % 0x100 + displacement.toNat })

namespace Registers

/-- The four flags of `f`. -/
def flags (registers : Registers) : Flags :=
  { zero := registers.flag .zero
    subtract := registers.flag .subtract
    halfCarry := registers.flag .halfCarry
    carry := registers.flag .carry }

/-- Combine the accumulator with an operand. -/
def accumulate (registers : Registers) (operation : Operation) (operand : Byte) :
    Registers :=
  let result := operation.apply registers.a operand (registers.flag .carry)
  { registers with a := result.value, f := result.flags.toByte }

/-- Flags after a byte was incremented; the carry is kept. -/
def noteIncrement (registers : Registers) (value : Byte) : Registers :=
  ((registers.setFlag .zero (value = 0xFF)).setFlag .subtract false).setFlag
    .halfCarry (value &&& 0x0F = 0x0F)

/-- Flags after a byte was decremented; the carry is kept. -/
def noteDecrement (registers : Registers) (value : Byte) : Registers :=
  ((registers.setFlag .zero (value = 0x01)).setFlag .subtract true).setFlag
    .halfCarry (value &&& 0x0F = 0)

/-- Flags after bit `index` of a byte was tested; the carry is kept. -/
def noteBit (registers : Registers) (index : Fin 8) (value : Byte) : Registers :=
  ((registers.setFlag .zero (!value.bit index)).setFlag .subtract false).setFlag
    .halfCarry true

/-- Add a word to `hl`. The half carry is the carry out of bit 11; the zero
flag is kept. -/
def addToHl (registers : Registers) (value : Word) : Registers :=
  let hl := registers.pair .hl
  (((registers.setFlag .subtract false).setFlag .halfCarry
    (0x0FFF < hl.toNat % 0x1000 + value.toNat % 0x1000)).setFlag .carry
      (0xFFFF < hl.toNat + value.toNat)).setPair .hl (hl + value)

/-- Decimal adjustment of the accumulator; the subtract flag is kept. -/
def adjustDecimal (registers : Registers) : Registers :=
  let result := decimalAdjust registers.a registers.flags
  { ((registers.setFlag .carry result.flags.carry).setFlag .halfCarry false).setFlag
      .zero result.flags.zero with a := result.value }

/-- Complement the accumulator. -/
def complement (registers : Registers) : Registers :=
  { (registers.setFlag .subtract true).setFlag .halfCarry true with a := ~~~registers.a }

/-- Give the carry a value and clear the other two flags beside zero. -/
def assignCarry (registers : Registers) (carry : Bool) : Registers :=
  ((registers.setFlag .subtract false).setFlag .halfCarry false).setFlag .carry carry

end Registers

end GameBoy.Cpu
