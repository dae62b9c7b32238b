import GameBoy.Cpu.Core
import GameBoy.Memory.Flat
import Mathlib.Tactic.IntervalCases

/-!
# The stack

Words that are pushed come back in the reverse order, with the stack pointer where it was. The
stack lies in a ring of 65536 bytes: a word takes the two bytes below the last one, also where
the two lie at the opposite ends of the address space. So up to 32768 words keep clear of each
other, and every byte that none of them takes stays as it was.
-/

namespace GameBoy.Cpu.Core

open Memory

section

variable {β : Type} [Bus β]

/-- Push some words, the first one first. -/
def pushAll (core : Core β) (words : List Word) : Core β := words.foldl push core

/-- Pop a number of words; the one that was pushed last comes first. -/
def popAll (core : Core β) : (count : Nat) → List Word × Core β
  | 0 => ([], core)
  | count + 1 =>
    let (word, core) := core.pop
    let (words, core) := core.popAll count
    (word :: words, core)

/-- The last of some pops. -/
theorem popAll_succ (core : Core β) (count : Nat) :
    core.popAll (count + 1) =
      ((core.popAll count).1 ++ [(core.popAll count).2.pop.1], (core.popAll count).2.pop.2) := by
  induction count generalizing core with
  | zero => rfl
  | succ count ih =>
      have first (count : Nat) : core.popAll (count + 1) =
          (core.pop.1 :: (core.pop.2.popAll count).1, (core.pop.2.popAll count).2) := rfl
      rw [first (count + 1), ih, first count, List.cons_append]

end

/-! ## Bytes below the stack pointer -/

/-- The address is one of a number of bytes below the stack pointer. -/
def Below (sp : Word) (bytes : Nat) (address : Word) : Prop :=
  ∃ depth, 1 ≤ depth ∧ depth ≤ bytes ∧ address = sp - UInt16.ofNat depth

variable {sp address : Word} {bytes : Nat}

theorem below_one (sp : Word) (bytes : Nat) : Below sp (bytes + 2) (sp - 1) :=
  ⟨1, by omega, by omega, rfl⟩

theorem below_two (sp : Word) (bytes : Nat) : Below sp (bytes + 2) (sp - 2) :=
  ⟨2, by omega, by omega, rfl⟩

/-- What lies below a word lies below the stack that the word was pushed on. -/
theorem Below.of_pushed (below : Below (sp - 2) bytes address) :
    Below sp (bytes + 2) address := by
  obtain ⟨depth, positive, within, rfl⟩ := below
  refine ⟨depth + 2, by omega, by omega, ?_⟩
  have sum : UInt16.ofNat (depth + 2) = UInt16.ofNat depth + 2 := UInt16.ofNat_add depth 2
  rw [sum]
  grind

/-- Words that do not go all around keep clear of the word that they are pushed on. -/
theorem not_below_of_le (sp : Word) (room : bytes + 2 ≤ 0x10000) :
    ¬ Below (sp - 2) bytes (sp - 1) ∧ ¬ Below (sp - 2) bytes (sp - 2) := by
  constructor
  · rintro ⟨depth, positive, within, same⟩
    have around : UInt16.ofNat depth = 0xFFFF := by grind
    have place : depth % 0x10000 = 0xFFFF := congrArg UInt16.toNat around
    omega
  · rintro ⟨depth, positive, within, same⟩
    have around : UInt16.ofNat depth = 0 := by grind
    have place : depth % 0x10000 = 0 := congrArg UInt16.toNat around
    omega

/-! ## Pushing and popping -/

variable (core : Core Flat)

theorem sp_push (word : Word) : (core.push word).registers.sp = core.registers.sp - 2 := by
  change core.registers.sp - 1 - 1 = core.registers.sp - 2
  grind

/-- The low byte of a word lies at the lower address. -/
theorem peek_push (word address : Word) :
    (core.push word).bus.peek address =
      if core.registers.sp - 2 = address then word.low
      else if core.registers.sp - 1 = address then word.high
      else core.bus.peek address := by
  have pushed : (core.push word).bus =
      (core.bus.write (core.registers.sp - 1) word.high).write (core.push word).registers.sp
        word.low := rfl
  rw [pushed, sp_push, Flat.peek_write, Flat.peek_write]

/-- Pushing touches the bytes below the stack pointer alone. -/
theorem peek_pushAll (words : List Word) {address : Word}
    (outside : ¬ Below core.registers.sp (2 * words.length) address) :
    (core.pushAll words).bus.peek address = core.bus.peek address := by
  induction words generalizing core with
  | nil => rfl
  | cons word words ih =>
      have length : 2 * (word :: words).length = 2 * words.length + 2 := rfl
      rw [length] at outside
      have low : core.registers.sp - 2 ≠ address := by
        rintro rfl
        exact outside (below_two _ _)
      have high : core.registers.sp - 1 ≠ address := by
        rintro rfl
        exact outside (below_one _ _)
      have rest : ¬ Below (core.push word).registers.sp (2 * words.length) address := by
        rw [sp_push]
        exact fun below => outside below.of_pushed
      calc ((core.push word).pushAll words).bus.peek address
          = (core.push word).bus.peek address := ih _ rest
        _ = core.bus.peek address := by rw [peek_push, if_neg low, if_neg high]

/-- A word that is still in its place is popped, and the processor is as before the push. -/
theorem pop_of_pushed (word : Word) {memory : Flat}
    (low : memory.peek (core.registers.sp - 2) = word.low)
    (high : memory.peek (core.registers.sp - 1) = word.high) :
    ({ core.push word with bus := memory } : Core Flat).pop =
      (word, { core with bus := memory }) := by
  have above : core.registers.sp - 2 + 1 = core.registers.sp - 1 := by grind
  have restored : core.registers.sp - 2 + 2 = core.registers.sp := by grind
  have popped : ({ core.push word with bus := memory } : Core Flat).pop =
      (Word.ofBytes (memory.peek ((core.push word).registers.sp + 1))
          (memory.peek (core.push word).registers.sp),
        ({ core with bus := memory } : Core Flat).modifyRegisters fun registers =>
          { registers with sp := (core.push word).registers.sp + 2 }) := rfl
  rw [popped, sp_push, above, restored, low, high, Word.ofBytes_high_low]
  rfl

/-- As many pops as pushes return the words in reverse, and of what the pushes did only the
bytes are left. -/
theorem popAll_pushAll (words : List Word) (fits : words.length ≤ 0x8000) :
    (core.pushAll words).popAll words.length =
      (words.reverse, { core with bus := (core.pushAll words).bus }) := by
  induction words generalizing core with
  | nil => rfl
  | cons word words ih =>
      rw [List.length_cons] at fits
      have room : 2 * words.length + 2 ≤ 0x10000 := by omega
      obtain ⟨aboveHigh, aboveLow⟩ := not_below_of_le core.registers.sp room
      rw [← sp_push core word] at aboveHigh aboveLow
      -- The later words have left the first one in its place.
      have low := (core.push word).peek_pushAll words aboveLow
      have high := (core.push word).peek_pushAll words aboveHigh
      have apart : core.registers.sp - 2 ≠ core.registers.sp - 1 := by grind
      rw [sp_push, peek_push, if_pos rfl] at low
      rw [peek_push, if_neg apart, if_pos rfl] at high
      have pushed : core.pushAll (word :: words) = (core.push word).pushAll words := rfl
      rw [pushed, List.length_cons, popAll_succ, ih _ (by omega), List.reverse_cons,
        pop_of_pushed core word low high]

/-- The stack gives back last what it took first. On every flat memory, for every stack pointer
and for up to 32768 words: pushing the words in order and popping as many returns them in the
reverse order, with the stack pointer and everything else in the processor as before. The pops
write nothing, and no byte has changed but those that the words took, which are as many below
the stack pointer as two for each word, wherever the region wraps. -/
theorem pops_reverse_pushes (words : List Word) (fits : words.length ≤ 32768) :
    let sp := core.registers.sp
    let full := core.pushAll words
    let (popped, after) := full.popAll words.length
    popped = words.reverse ∧ after.registers.sp = sp ∧ after.cpu = core.cpu ∧
      after.bus = full.bus ∧
      ∀ address, (∀ depth, 1 ≤ depth → depth ≤ 2 * words.length →
          address ≠ sp - UInt16.ofNat depth) →
        after.bus.peek address = core.bus.peek address := by
  intro sp full
  rw [popAll_pushAll core words fits]
  refine ⟨rfl, rfl, rfl, rfl, fun address outside => ?_⟩
  refine core.peek_pushAll words ?_
  rintro ⟨depth, positive, within, same⟩
  exact outside depth positive within same

/-- A stack whose first word lies at both ends of the address space. -/
def straddling : Core Flat := { cpu := { registers := { sp := 1 } }, bus := {} }

/-- Two words are pushed across the end of the address space and popped, and the byte above
them is kept. -/
theorem pops_reverse_pushes_of_straddling :
    let words : List Word := [0x1234, 0xABCD]
    let (popped, after) := (straddling.pushAll words).popAll 2
    words.length ≤ 32768 ∧ popped = [0xABCD, 0x1234] ∧ after.registers.sp = 1 ∧
      (∀ depth, 1 ≤ depth → depth ≤ 4 → (1 : Word) ≠ 1 - UInt16.ofNat depth) ∧
      after.bus.peek 1 = straddling.bus.peek 1 := by
  intro words
  have apart : ∀ depth, 1 ≤ depth → depth ≤ 4 → (1 : Word) ≠ 1 - UInt16.ofNat depth := by
    intro depth positive within
    interval_cases depth <;> decide
  obtain ⟨reversed, restored, -, -, kept⟩ := straddling.pops_reverse_pushes words (by decide)
  exact ⟨by decide, reversed, restored, apart, kept 1 apart⟩

end GameBoy.Cpu.Core
