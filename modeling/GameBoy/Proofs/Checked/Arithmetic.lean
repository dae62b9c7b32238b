import GameBoy.Cpu.Arithmetic
import GameBoy.Interrupt
import GameBoy.Proofs.Checked.Number

/-!
# Arithmetic with checked operations

The processor forms sums in numbers that are wider than their operands and
differences in signed ones, and finds the bits of a byte by shifting. All of this
is checked here. None of it depends on the state of a machine: the checked forms
agree with the arithmetic of the processor for all operands.
-/

namespace GameBoy

open Checked

/-- Address of the handler of an interrupt. -/
def Interrupt.checkedVector (interrupt : Interrupt) : Option Word := do
  let offset ← product? 16 interrupt.index 8
  let address ← sum? 16 0x40 offset
  pure (UInt16.ofNat address)

namespace Cpu

/-- The sum of two bytes and a carry. -/
def checkedAddBytes (left right : Byte) (carry : Bool) : Option Result := do
  let nibbles ← sum? 8 (left.toNat % 0x10) (right.toNat % 0x10)
  let half ← sum? 8 nibbles carry.toNat
  let bytes ← sum? 16 left.toNat right.toNat
  let full ← sum? 16 bytes carry.toNat
  pure {
    value := UInt8.ofNat full
    flags := { zero := full % 0x100 = 0, halfCarry := 0x0F < half, carry := 0xFF < full } }

/-- The difference of two bytes less a borrow. -/
def checkedSubtractBytes (left right : Byte) (borrow : Bool) : Option Result := do
  let nibbles ← signed? 16 ((left.toNat % 0x10 : Nat) - (right.toNat % 0x10 : Nat))
  let half ← signed? 16 (nibbles - borrow.toNat)
  let bytes ← signed? 16 (left.toNat - right.toNat)
  let full ← signed? 16 (bytes - borrow.toNat)
  pure {
    value := UInt8.ofNat (full % 0x100).toNat
    flags :=
      { zero := full % 0x100 = 0, subtract := true, halfCarry := half < 0, carry := full < 0 } }

/-- Add a word to `hl`. -/
def checkedAddToHl (registers : Registers) (value : Word) : Option Registers := do
  let hl := registers.pair .hl
  let half ← sum? 16 (hl.toNat % 0x1000) (value.toNat % 0x1000)
  let full ← sum? 32 hl.toNat value.toNat
  pure ((((registers.setFlag .subtract false).setFlag .halfCarry (0x0FFF < half)).setFlag
    .carry (0xFFFF < full)).setPair .hl (hl + value))

/-- The sum of a word and a signed displacement. -/
def checkedAddDisplacement (base : Word) (displacement : Byte) : Option (Word × Flags) := do
  let offset := Word.ofSigned displacement
  let half ← sum? 16 (base.toNat % 0x10) (offset.toNat % 0x10)
  let full ← sum? 16 (base.toNat % 0x100) (offset.toNat % 0x100)
  pure (base + offset, { halfCarry := 0x0F < half, carry := 0xFF < full })

/-- The shifted byte and the bit that leaves it. -/
def Shift.checkedMove (shift : Shift) (value : Byte) (carry : Bool) : Option (Byte × Bool) := do
  let doubled ← shifted? 8 1 (value <<< 1)
  let halved ← shifted? 8 1 (value >>> 1)
  match shift with
  | .rotateLeft => do
    let lowest ← shifted? 8 7 (value >>> 7)
    pure (doubled ||| lowest, value.bit 7)
  | .rotateRight => do
    let highest ← shifted? 8 7 (value <<< 7)
    pure (halved ||| highest, value.bit 0)
  | .rotateLeftThroughCarry => pure (doubled ||| carry.toUInt8, value.bit 7)
  | .rotateRightThroughCarry => do
    let highest ← shifted? 8 7 (carry.toUInt8 <<< 7)
    pure (halved ||| highest, value.bit 0)
  | .left => pure (doubled, value.bit 7)
  | .rightArithmetic => pure (halved ||| value &&& 0x80, value.bit 0)
  | .swap => do
    let upper ← shifted? 8 4 (value <<< 4)
    let lower ← shifted? 8 4 (value >>> 4)
    pure (upper ||| lower, false)
  | .rightLogical => pure (halved, value.bit 0)

/-- The position of a flag in `f`. -/
def Flag.index : Flag → Nat
  | .zero => 7
  | .subtract => 6
  | .halfCarry => 5
  | .carry => 4

/-- A byte with a bit set. -/
def checkedSetBit (byte : Byte) (index : Fin 8) : Option Byte := do
  let mask ← shifted? 8 index.val (1 <<< UInt8.ofNat index)
  pure (byte ||| mask)

/-- A byte with a bit cleared. -/
def checkedClearBit (byte : Byte) (index : Fin 8) : Option Byte := do
  let mask ← shifted? 8 index.val (1 <<< UInt8.ofNat index)
  pure (byte &&& ~~~mask)

/-- What the processor computes fits into its numbers, for all operands. -/
structure Computes : Prop where
  add : ∀ left right carry,
    checkedAddBytes left right carry = some (addBytes left right carry)
  subtract : ∀ left right borrow,
    checkedSubtractBytes left right borrow = some (subtractBytes left right borrow)
  addToHl : ∀ registers value,
    checkedAddToHl registers value = some (registers.addToHl value)
  addDisplacement : ∀ base displacement,
    checkedAddDisplacement base displacement = some (addDisplacement base displacement)
  shift : ∀ (shift : Shift) value carry,
    shift.checkedMove value carry = some (shift.move value carry)
  flag : ∀ flag : Flag,
    shifted? 8 flag.index (1 <<< UInt8.ofNat flag.index) = some flag.mask
  setBit : ∀ byte index, checkedSetBit byte index = some (byte.set index)
  clearBit : ∀ byte index, checkedClearBit byte index = some (byte.clear index)
  vector : ∀ interrupt : Interrupt, interrupt.checkedVector = some interrupt.vector

theorem checkedAddBytes_eq (left right : Byte) (carry : Bool) :
    checkedAddBytes left right carry = some (addBytes left right carry) := by
  have := left.toNat_lt
  have := right.toNat_lt
  have := carry.toNat_le
  simp (disch := omega) only [checkedAddBytes, sum?_of_lt, Option.bind_eq_bind,
    Option.bind_some]
  rfl

theorem checkedSubtractBytes_eq (left right : Byte) (borrow : Bool) :
    checkedSubtractBytes left right borrow = some (subtractBytes left right borrow) := by
  have := left.toNat_lt
  have := right.toNat_lt
  have := borrow.toNat_le
  simp (disch := omega) only [checkedSubtractBytes, signed?_of_mem, Option.bind_eq_bind,
    Option.bind_some]
  have difference : ((left.toNat : Int) - right.toNat - borrow.toNat) % 0x100 =
      ((left.toNat + 0x200 - (right.toNat + borrow.toNat)) % 0x100 : Nat) := by
    omega
  have half : ((left.toNat % 0x10 : Nat) : Int) - (right.toNat % 0x10 : Nat) - borrow.toNat < 0 ↔
      left.toNat % 0x10 < right.toNat % 0x10 + borrow.toNat := by
    omega
  have full : (left.toNat : Int) - right.toNat - borrow.toNat < 0 ↔
      left.toNat < right.toNat + borrow.toNat := by
    omega
  simp only [difference, half, full, Int.toNat_natCast, Int.natCast_eq_zero]
  rfl

theorem checkedAddToHl_eq (registers : Registers) (value : Word) :
    checkedAddToHl registers value = some (registers.addToHl value) := by
  have := (registers.pair .hl).toNat_lt
  have := value.toNat_lt
  simp (disch := omega) only [checkedAddToHl, sum?_of_lt, Option.bind_eq_bind,
    Option.bind_some]
  rfl

/-- The low byte of a displacement is the byte that it was read from. -/
theorem toNat_ofSigned_mod (displacement : Byte) :
    (Word.ofSigned displacement).toNat % 0x100 = displacement.toNat := by
  have := displacement.toNat_lt
  rw [Word.ofSigned]
  split
  · rw [UInt8.toNat_toUInt16]
    omega
  · rw [UInt16.toNat_add, UInt8.toNat_toUInt16]
    have : (0xFF00 : Word).toNat = 0xFF00 := rfl
    omega

theorem checkedAddDisplacement_eq (base : Word) (displacement : Byte) :
    checkedAddDisplacement base displacement = some (addDisplacement base displacement) := by
  have low := toNat_ofSigned_mod displacement
  have nibble : (Word.ofSigned displacement).toNat % 0x10 = displacement.toNat % 0x10 := by
    omega
  have := displacement.toNat_lt
  simp (disch := omega) only [checkedAddDisplacement, low, nibble, sum?_of_lt,
    Option.bind_eq_bind, Option.bind_some]
  rfl

theorem checkedMove_eq (shift : Shift) (value : Byte) (carry : Bool) :
    shift.checkedMove value carry = some (shift.move value carry) := by
  cases shift <;> rfl

/-- None of the processor's computations ever leaves its numbers. -/
theorem computes : Computes where
  add := checkedAddBytes_eq
  subtract := checkedSubtractBytes_eq
  addToHl := checkedAddToHl_eq
  addDisplacement := checkedAddDisplacement_eq
  shift := checkedMove_eq
  flag flag := by
    cases flag <;> rfl
  setBit byte index := by
    rw [checkedSetBit, shifted?_of_lt index.isLt]
    rfl
  clearBit byte index := by
    rw [checkedClearBit, shifted?_of_lt index.isLt]
    rfl
  vector interrupt := by
    cases interrupt <;> rfl

end Cpu

end GameBoy
