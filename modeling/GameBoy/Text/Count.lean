/-!
# Counts

A count is written in decimal digits behind an optional plus sign. It is read from
the left, and reading stops at the first character that is no digit or that makes
the count too large.
-/

namespace GameBoy.Text

/-- Why a text is not a count. -/
inductive CountError where
  | empty
  | invalidDigit
  | tooLarge
  deriving DecidableEq, Repr

/-- The reason in words. -/
def CountError.message : CountError → String
  | .empty => "cannot parse integer from empty string"
  | .invalidDigit => "invalid digit found in string"
  | .tooLarge => "number too large to fit in target type"

/-- The value of a decimal digit. -/
def digitValue? (character : Char) : Option Nat :=
  if character.isDigit then some (character.toNat - 0x30) else none

/-- Read digits behind a count that was read before them. -/
def readDigits (limit : Nat) (count : Nat) : List Char → Except CountError Nat
  | [] => .ok count
  | character :: rest =>
    match digitValue? character with
    | none => .error .invalidDigit
    | some digit =>
      if limit < 10 * count + digit then .error .tooLarge
      else readDigits limit (10 * count + digit) rest

/-- Read a count that is at most `limit`. -/
def readCount (limit : Nat) : List Char → Except CountError Nat
  | [] => .error .empty
  | ['+'] => .error .invalidDigit
  | '+' :: digits => readDigits limit 0 digits
  | digits => readDigits limit 0 digits

end GameBoy.Text
