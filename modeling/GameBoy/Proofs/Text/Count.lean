import GameBoy.Text.Count
import Mathlib.Data.List.Induction
import Mathlib.Data.List.TakeWhile
import Mathlib.Data.Nat.Digits.Defs

/-!
# What a count spells

A text spells a count if it has decimal digits, behind a plus sign or not, that denote it.
Reading from the left finds the count of exactly the texts that spell one within the limit.
For all others it tells what is wrong: the digits that a text starts with already denote too
much, whatever comes behind them, or else a character is out of place.
-/

namespace GameBoy.Text

/-- The number that decimal digits denote. -/
def decimal (digits : List Char) : Nat :=
  Nat.ofDigits 10 (digits.reverse.map fun digit => digit.toNat - 0x30)

@[simp] theorem decimal_nil : decimal [] = 0 :=
  rfl

theorem decimal_concat (digits : List Char) (digit : Char) :
    decimal (digits ++ [digit]) = 10 * decimal digits + (digit.toNat - 0x30) := by
  simp only [decimal, List.reverse_append, List.reverse_singleton, List.singleton_append,
    List.map_cons, Nat.ofDigits_cons]
  omega

theorem decimal_le_append (digits more : List Char) :
    decimal digits ≤ decimal (digits ++ more) := by
  induction more using List.reverseRecOn with
  | nil => simp
  | append_singleton more digit ih =>
      have grows := decimal_concat (digits ++ more) digit
      rw [List.append_assoc] at grows
      omega

/-- At least one decimal digit and nothing else. -/
def IsNumeral (text : List Char) : Prop :=
  text ≠ [] ∧ ∀ character ∈ text, character.isDigit = true

instance (text : List Char) : Decidable (IsNumeral text) :=
  inferInstanceAs (Decidable (_ ∧ _))

/-- A text is a numeral, behind a plus sign or not, and denotes a count. -/
def Spells (text : List Char) (count : Nat) : Prop :=
  ∃ digits, IsNumeral digits ∧ (text = digits ∨ text = '+' :: digits) ∧ decimal digits = count

/-- A text without the plus sign in front of it. -/
def unsigned : List Char → List Char
  | '+' :: digits => digits
  | text => text

theorem eq_or_eq_plus_unsigned (text : List Char) :
    text = unsigned text ∨ text = '+' :: unsigned text := by
  fun_cases unsigned text with
  | case1 digits => exact .inr rfl
  | case2 => exact .inl rfl

theorem IsNumeral.unsigned_eq {text : List Char} (numeral : IsNumeral text) :
    unsigned text = text := by
  fun_cases unsigned text with
  | case1 digits => exact absurd (numeral.2 '+' List.mem_cons_self) (by decide)
  | case2 => rfl

theorem spells_iff {text : List Char} {count : Nat} :
    Spells text count ↔ IsNumeral (unsigned text) ∧ decimal (unsigned text) = count := by
  constructor
  · rintro ⟨digits, numeral, rfl | rfl, denotes⟩
    · rw [numeral.unsigned_eq]
      exact ⟨numeral, denotes⟩
    · exact ⟨numeral, denotes⟩
  · rintro ⟨numeral, denotes⟩
    exact ⟨unsigned text, numeral, eq_or_eq_plus_unsigned text, denotes⟩

/-- What is wrong with a text that spells no count within a limit. -/
def countFault (limit : Nat) (text : List Char) : CountError :=
  if text = [] then .empty
  else if limit < decimal ((unsigned text).takeWhile Char.isDigit) then .tooLarge
  else .invalidDigit

/-- Reading goes on behind digits that denote no more than the limit. -/
theorem readDigits_decimal {limit : Nat} {earlier : List Char} (small : decimal earlier ≤ limit)
    (text : List Char) :
    readDigits limit (decimal earlier) text =
      if limit < decimal (earlier ++ text.takeWhile Char.isDigit) then .error .tooLarge
      else if text.all Char.isDigit then .ok (decimal (earlier ++ text))
      else .error .invalidDigit := by
  induction text generalizing earlier with
  | nil => simp [readDigits, small]
  | cons character text ih =>
      by_cases digit : character.isDigit = true
      · have extended := decimal_concat earlier character
        have grows := decimal_le_append (earlier ++ [character]) (text.takeWhile Char.isDigit)
        simp only [List.append_assoc, List.singleton_append] at grows
        simp only [readDigits, digitValue?, digit, if_true, ← extended,
          List.takeWhile_cons_of_pos, List.all_cons, Bool.true_and]
        -- What is too large already stays so behind any further digits.
        by_cases exceeds : limit < decimal (earlier ++ [character])
        · rw [if_pos exceeds, if_pos (by omega)]
        · rw [if_neg exceeds, ih (by omega)]
          simp
      · simp [readDigits, digitValue?, digit, small]

theorem readCount_of_ne_nil {limit : Nat} {text : List Char} (filled : text ≠ []) :
    readCount limit text =
      if unsigned text = [] then .error .invalidDigit
      else readDigits limit (decimal []) (unsigned text) := by
  fun_cases readCount limit text with
  | case1 => exact absurd rfl filled
  | case2 => rfl
  | case3 digits more => exact (if_neg more).symm
  | case4 => simp_all [unsigned]

/-- Reading decides whether a text spells a count within the limit. -/
theorem readCount_eq (limit : Nat) (text : List Char) :
    readCount limit text =
      if IsNumeral (unsigned text) ∧ decimal (unsigned text) ≤ limit then
        .ok (decimal (unsigned text))
      else .error (countFault limit text) := by
  by_cases filled : text = []
  · subst filled
    simp [readCount, unsigned, IsNumeral, countFault]
  rw [readCount_of_ne_nil filled, countFault, if_neg filled]
  by_cases bare : unsigned text = []
  · simp [bare, IsNumeral]
  rw [if_neg bare, readDigits_decimal (Nat.zero_le limit), List.nil_append, List.nil_append]
  by_cases digits : ∀ character ∈ unsigned text, character.isDigit = true
  · rw [List.takeWhile_eq_self_iff.mpr digits, List.all_eq_true.mpr digits]
    by_cases small : decimal (unsigned text) ≤ limit
    · rw [if_neg (by omega), if_pos rfl, if_pos ⟨⟨bare, digits⟩, small⟩]
    · have spelled : ¬ (IsNumeral (unsigned text) ∧ decimal (unsigned text) ≤ limit) :=
        fun spelled => small spelled.2
      rw [if_neg spelled, if_pos (by omega), if_pos (by omega)]
  · have spelled : ¬ (IsNumeral (unsigned text) ∧ decimal (unsigned text) ≤ limit) :=
      fun spelled => digits spelled.1.2
    rw [if_neg spelled, if_neg (mt List.all_eq_true.mp digits)]
    split <;> rfl

theorem readCount_eq_ok_iff {limit : Nat} {text : List Char} {count : Nat} :
    readCount limit text = .ok count ↔ Spells text count ∧ count ≤ limit := by
  rw [readCount_eq, spells_iff]
  split <;> grind

theorem readCount_eq_error {limit : Nat} {text : List Char}
    (unspelled : ∀ count ≤ limit, ¬ Spells text count) :
    readCount limit text = .error (countFault limit text) := by
  rw [readCount_eq, if_neg]
  rintro ⟨numeral, small⟩
  exact unspelled _ small (spells_iff.mpr ⟨numeral, rfl⟩)

end GameBoy.Text
