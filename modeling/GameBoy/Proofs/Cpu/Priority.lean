import GameBoy.Interrupt
import Mathlib.Data.Nat.Bitwise
import Mathlib.Tactic.IntervalCases

/-!
# Priority of interrupts

Each source owns one bit of the two registers, and the lowest bit that is set in both is
served first. Serving a source clears its bit and leaves the others in their order, so the
sources that wait form a queue whose head is served next.
-/

namespace GameBoy.Interrupt

/-! ## The bit of a source -/

theorem bit_mask (first second : Interrupt) :
    first.mask.bit second.index = decide (first = second) := by
  cases first <;> cases second <;> rfl

theorem bit_not_mask (first second : Interrupt) :
    (~~~first.mask).bit second.index = decide (first ≠ second) := by
  cases first <;> cases second <;> rfl

theorem sources_and_mask (source : Interrupt) :
    InterruptController.sources &&& source.mask = source.mask := by
  cases source <;> rfl

theorem and_mask_ne_zero (bits : Byte) (source : Interrupt) :
    (bits &&& source.mask != 0) = bits.bit source.index := by
  have place : source.mask.toNat = 2 ^ source.index := by
    cases source <;> rfl
  have same : (bits &&& source.mask).toNat = (bits.bit source.index).toNat * 2 ^ source.index := by
    rw [UInt8.toNat_and, place, Nat.and_two_pow]
    rfl
  cases set : bits.bit source.index with
  | false =>
      rw [set, Bool.toNat_false, Nat.zero_mul] at same
      exact bne_eq_false_iff_eq.mpr (UInt8.toNat_inj.mp same)
  | true =>
      rw [set, Bool.toNat_true, Nat.one_mul] at same
      refine bne_iff_ne.mpr fun zero => ?_
      rw [zero] at same
      exact absurd same.symm (Nat.two_pow_pos _).ne'

/-! ## The source to serve next -/

/-- The source to serve is the lowest bit that is set. -/
theorem highest_eq_some {bits : Byte} {source : Interrupt} (found : highest bits = some source) :
    bits.bit source.index = true ∧ ∀ lower < source.index, bits.bit lower = false := by
  simp only [highest, all, List.find?_cons, List.find?_nil, and_mask_ne_zero, index] at found
  repeat' split at found
  all_goals cases found
  all_goals
    refine ⟨‹_›, fun lower below => ?_⟩
    simp only [index] at below
    interval_cases lower <;> assumption

theorem highest_and_sources (bits : Byte) :
    highest (bits &&& InterruptController.sources) = highest bits := by
  simp only [highest, UInt8.and_assoc, sources_and_mask]

theorem highest_eq_none_iff (bits : Byte) :
    highest bits = none ↔ bits &&& InterruptController.sources = 0 := by
  obtain ⟨bits⟩ := bits
  revert bits
  decide

/-! ## The queue of sources -/

/-- The sources whose bits are set, in the order in which they are served. -/
def among (bits : Byte) : List Interrupt :=
  all.filter fun source => bits &&& source.mask != 0

theorem mem_among {bits : Byte} {source : Interrupt} :
    source ∈ among bits ↔ bits.bit source.index = true := by
  have listed : source ∈ all := by
    cases source <;> decide
  rw [among, List.mem_filter, and_mask_ne_zero, and_iff_right listed]

theorem among_and_sources (bits : Byte) :
    among (bits &&& InterruptController.sources) = among bits := by
  simp only [among, UInt8.and_assoc, sources_and_mask]

/-- No source comes twice, and lower bits come first. -/
theorem among_ascending (bits : Byte) :
    (among bits).Pairwise fun earlier later => earlier.index < later.index :=
  List.Pairwise.filter _ (by decide)

theorem nodup_among (bits : Byte) : (among bits).Nodup :=
  (among_ascending bits).imp fun before same => before.ne (congrArg index same)

theorem head?_among (bits : Byte) : (among bits).head? = highest bits :=
  List.head?_filter

/-- Clearing the bit of a source takes the source out. -/
theorem among_and_not_mask (bits : Byte) (source : Interrupt) :
    among (bits &&& ~~~source.mask) = (among bits).filter (source ≠ ·) := by
  rw [among, among, List.filter_filter]
  refine List.filter_congr fun other _ => ?_
  rw [and_mask_ne_zero, and_mask_ne_zero, ← bit_not_mask, Bool.and_comm]
  simp only [Byte.bit, UInt8.toNat_and, Nat.testBit_and]

/-- Behind the source that is served first the others wait as before. -/
theorem among_of_served {bits : Byte} {source : Interrupt} {rest : List Interrupt}
    (queue : among bits = source :: rest) : among (bits &&& ~~~source.mask) = rest := by
  have once : source ∉ rest := (List.nodup_cons.mp (queue ▸ nodup_among bits)).1
  rw [among_and_not_mask, queue, List.filter_cons_of_neg (by simp), List.filter_eq_self]
  intro other waiting
  exact decide_eq_true fun same => once (same ▸ waiting)

/-- The bits of some sources. -/
def masks : List Interrupt → Byte
  | [] => 0
  | source :: sources => source.mask ||| masks sources

@[simp] theorem masks_singleton (source : Interrupt) : masks [source] = source.mask :=
  UInt8.or_zero

/-- Bits are cleared one source after the other. -/
theorem and_not_masks_cons (bits : Byte) (source : Interrupt) (sources : List Interrupt) :
    bits &&& ~~~masks (source :: sources) = bits &&& ~~~source.mask &&& ~~~masks sources := by
  rw [masks, ← UInt8.toBitVec_inj]
  simp only [UInt8.toBitVec_and, UInt8.toBitVec_not, UInt8.toBitVec_or, BitVec.not_or,
    BitVec.and_assoc]

/-- The queue accounts for every bit that belongs to a source. -/
theorem masks_among (bits : Byte) : masks (among bits) = bits &&& InterruptController.sources := by
  obtain ⟨bits⟩ := bits
  revert bits
  decide

end GameBoy.Interrupt
