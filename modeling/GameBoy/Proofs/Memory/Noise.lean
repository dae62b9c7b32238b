import GameBoy.Memory.Noise

/-!
# Filling memories

A memory that is filled from the generator holds the generator's bytes, one after
another. Every cell is overwritten, so what a memory held before is lost.
-/

namespace GameBoy.Memory

namespace Noise

/-- A number of bytes, each the low part of a state, and the last state. -/
def bytes (state : UInt32) : (count : Nat) → Vector Byte count × UInt32
  | 0 => (#v[], state)
  | count + 1 =>
    let (earlier, state) := bytes state count
    let state := next state
    (earlier.push state.toUInt8, state)

variable {count : Nat} (cells : Vector Byte count) (state : UInt32)

theorem snd_overwriteFirst {done : Nat} (inside : done ≤ count) :
    (overwriteFirst cells state done inside).2 = (bytes state done).2 := by
  induction done with
  | zero => rfl
  | succ done ih => exact congrArg next (ih (Nat.le_of_succ_le inside))

/-- Cells that were overwritten hold the generator's bytes. -/
theorem getElem_overwriteFirst {done : Nat} (inside : done ≤ count) {place : Nat}
    (early : place < done) :
    (overwriteFirst cells state done inside).1[place] = (bytes state done).1[place] := by
  induction done with
  | zero => exact absurd early (Nat.not_lt_zero _)
  | succ done ih =>
      have last := congrArg next (snd_overwriteFirst cells state (Nat.le_of_succ_le inside))
      simp only [overwriteFirst, bytes, last, Vector.getElem_set, Vector.getElem_push]
      split
      case isTrue same => rw [dif_neg (by omega)]
      case isFalse other =>
        have earlier : place < done := by omega
        rw [dif_pos earlier]
        exact ih _ earlier

/-- When all cells have been overwritten, what they held before is lost. -/
theorem overwrite_eq : overwrite cells state = bytes state count :=
  Prod.ext (Vector.ext fun _ early => getElem_overwriteFirst cells state _ early)
    (snd_overwriteFirst cells state _)

end Noise

/-- Work RAM and high RAM at power-on, in the order in which they are filled. -/
def Fill.memories : Fill → Vector Byte 0x2000 × Vector Byte 0x7F
  | .noise =>
    let (workRam, state) := Noise.bytes Noise.seed 0x2000
    (workRam, (Noise.bytes state 0x7F).1)
  | .zeros => (Vector.replicate 0x2000 0, Vector.replicate 0x7F 0)

/-- Memories that are filled again hold the same as at the first power-on. -/
theorem Fill.refill_eq (fill : Fill) (workRam : Vector Byte 0x2000)
    (highRam : Vector Byte 0x7F) : fill.refill workRam highRam = fill.memories := by
  unfold refill memories
  rw [Noise.overwrite_eq]
  -- The bytes stay a name before the fill is known: nothing below may compute them.
  generalize Noise.bytes Noise.seed 0x2000 = filled
  obtain ⟨workRam, state⟩ := filled
  cases fill with
  | noise => simp only [Noise.overwrite_eq]
  | zeros => rfl

end GameBoy.Memory
