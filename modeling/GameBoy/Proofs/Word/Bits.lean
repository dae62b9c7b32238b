import GameBoy.Word

/-!
# Bytes as bits

A byte is told by its eight bits. The operations on bytes work on every bit alone, and a bit
that is set or cleared leaves the others as they are.
-/

namespace GameBoy.Byte

/-- Bytes with the same bits are equal. -/
theorem ext_bit {left right : Byte} (same : ∀ index < 8, left.bit index = right.bit index) :
    left = right := by
  rw [← UInt8.toBitVec_inj]
  exact BitVec.eq_of_getLsbD_eq same

theorem bit_or (left right : Byte) (index : Nat) :
    (left ||| right).bit index = (left.bit index || right.bit index) := by
  simp only [bit, UInt8.toNat_or, Nat.testBit_or]

theorem bit_and (left right : Byte) (index : Nat) :
    (left &&& right).bit index = (left.bit index && right.bit index) := by
  simp only [bit, UInt8.toNat_and, Nat.testBit_and]

theorem bit_not (byte : Byte) {index : Nat} (inside : index < 8) :
    (~~~byte).bit index = !byte.bit index := by
  have same : (~~~byte).bit index = (~~~byte.toBitVec).getLsbD index := rfl
  rw [same, BitVec.getLsbD_not, decide_eq_true inside, Bool.true_and]
  rfl

/-- Set or clear a bit. -/
def assign (byte : Byte) (index : Fin 8) (value : Bool) : Byte :=
  if value then byte.set index else byte.clear index

theorem bit_single (index : Fin 8) {place : Nat} (inside : place < 8) :
    Byte.bit (1 <<< UInt8.ofNat index) place = decide (place = index) := by
  have all : ∀ index place : Fin 8,
      Byte.bit (1 <<< UInt8.ofNat index) place = decide (place.val = index.val) := by decide
  exact all index ⟨place, inside⟩

/-- The other bits are kept. -/
theorem bit_assign (byte : Byte) (index : Fin 8) (value : Bool) {place : Nat}
    (inside : place < 8) :
    (byte.assign index value).bit place = if place = index then value else byte.bit place := by
  cases value with
  | true =>
      simp only [assign, set, if_true, bit_or, bit_single index inside]
      by_cases here : place = index <;> simp [here]
  | false =>
      simp only [assign, clear, Bool.false_eq_true, if_false, bit_and, bit_not _ inside,
        bit_single index inside]
      by_cases here : place = index <;> simp [here]

/-- Different bits may be assigned in either order. -/
theorem assign_comm (byte : Byte) {first second : Fin 8} (different : first ≠ second)
    (value other : Bool) :
    (byte.assign first value).assign second other =
      (byte.assign second other).assign first value := by
  refine ext_bit fun place inside => ?_
  simp only [bit_assign _ _ _ inside]
  by_cases here : place = first
  · have apart : place ≠ second := fun same => different (Fin.ext (here.symm.trans same))
    simp only [here ▸ apart, here, if_true, if_false]
  · simp only [here, if_false]

end GameBoy.Byte
