import GameBoy.Memory.Flat
import GameBoy.Proofs.Cpu.FlagRegister
import Mathlib.Data.Nat.Digits.Defs
import Mathlib.Tactic.LinearCombination

/-!
# Arithmetic on long numbers

Numbers of any length are added and subtracted byte by byte, the lowest byte first, and the
carry flag takes what one column hands to the next. The bytes are the digits of the number:
they count as they are, or as two decimal digits each, and then every column is adjusted
behind the sum or the difference. One column is exact in either case, so a calculation is
exact whatever its length.
-/

namespace GameBoy.Cpu

/-! ## Flags -/

namespace Registers

variable (registers : Registers)

/-- One flag is changed, and no other. -/
theorem flag_setFlag (flag : Flag) (value : Bool) (other : Flag) :
    (registers.setFlag flag value).flag other =
      if flag = other then value else registers.flag other := by
  have set : flag.mask &&& other.mask = if flag = other then other.mask else 0 := by
    cases flag <;> cases other <;> rfl
  have cleared : ~~~flag.mask &&& other.mask = if flag = other then 0 else other.mask := by
    cases flag <;> cases other <;> rfl
  have some : other.mask ≠ 0 := by
    cases other <;> decide
  simp only [setFlag, Registers.flag]
  cases value with
  | true =>
      rw [if_pos rfl, Byte.and_or_distrib_right, set]
      split
      · rw [bne_iff_ne, Ne, UInt8.or_eq_zero_iff]
        exact fun none => some none.2
      · rw [UInt8.or_zero]
  | false =>
      rw [if_neg Bool.false_ne_true, UInt8.and_assoc, cleared]
      split
      · rw [UInt8.and_zero, bne_self_eq_false]
      · rfl

/-- The flags that a byte was made of are found in it. -/
theorem flags_setFlags (flags : Flags) : (registers.setFlags flags).flags = flags := by
  simp only [Registers.flags, flag, f_setFlags]
  rcases flags with ⟨_ | _, _ | _, _ | _, _ | _⟩ <;> rfl

theorem flags_accumulate (operation : Operation) (operand : Byte) :
    (registers.accumulate operation operand).flags =
      (operation.apply registers.a operand (registers.flag .carry)).flags :=
  registers.flags_setFlags _

theorem a_adjustDecimal :
    registers.adjustDecimal.a = (decimalAdjust registers.a registers.flags).value := rfl

theorem carry_adjustDecimal :
    registers.adjustDecimal.flag .carry =
      (decimalAdjust registers.a registers.flags).flags.carry := by
  change (Registers.setFlag _ .zero _).flag .carry = _
  rw [flag_setFlag, flag_setFlag, flag_setFlag]
  rfl

end Registers

/-! ## Numerals -/

/-- How a byte counts as a digit: as it is, or as two decimal digits. -/
inductive Numeral where
  | binary
  | packedDecimal
  deriving DecidableEq, Repr

namespace Numeral

/-- Number of the digits. -/
def base : Numeral → Nat
  | .binary => 0x100
  | .packedDecimal => 100

/-- Whether a byte is a digit. -/
def Valid : Numeral → Byte → Prop
  | .binary, _ => True
  | .packedDecimal, byte => byte.toNat / 0x10 ≤ 9 ∧ byte.toNat % 0x10 ≤ 9

instance (numeral : Numeral) (byte : Byte) : Decidable (numeral.Valid byte) := by
  cases numeral <;> unfold Valid <;> infer_instance

/-- The digit that a byte stands for. -/
def digit : Numeral → Byte → Nat
  | .binary, byte => byte.toNat
  | .packedDecimal, byte => 10 * (byte.toNat / 0x10) + byte.toNat % 0x10

/-- The number whose digits are some bytes, the lowest first. -/
def value (numeral : Numeral) (bytes : List Byte) : Nat :=
  Nat.ofDigits numeral.base (bytes.map numeral.digit)

theorem digit_lt {numeral : Numeral} {byte : Byte} (valid : numeral.Valid byte) :
    numeral.digit byte < numeral.base := by
  cases numeral with
  | binary => exact byte.toNat_lt
  | packedDecimal =>
      obtain ⟨high, low⟩ := valid
      simp only [digit, base]
      omega

theorem value_cons (numeral : Numeral) (byte : Byte) (bytes : List Byte) :
    numeral.value (byte :: bytes) = numeral.digit byte + numeral.base * numeral.value bytes := by
  rw [value, List.map_cons, Nat.ofDigits_cons, value]

theorem value_lt {numeral : Numeral} {bytes : List Byte}
    (valid : ∀ byte ∈ bytes, numeral.Valid byte) :
    numeral.value bytes < numeral.base ^ bytes.length := by
  have several : 1 < numeral.base := by
    cases numeral <;> decide
  have bound := Nat.ofDigits_lt_base_pow_length several (l := bytes.map numeral.digit) (by
    intro number mem
    obtain ⟨byte, found, rfl⟩ := List.mem_map.mp mem
    exact digit_lt (valid byte found))
  rwa [List.length_map] at bound

/-- What follows a sum or a difference of digits: decimal digits are adjusted. -/
def adjust {β : Type} [Bus β] (numeral : Numeral) (core : Core β) : Core β :=
  match numeral with
  | .binary => core
  | .packedDecimal => core.execute .adjustDecimal

end Numeral

/-! ## Sums with a carry -/

/-- A sum of two numbers and a carry, told below `base`, and the carry that is left over. -/
def Adds (base first second : Nat) (carry : Bool) (sum : Nat) (out : Bool) : Prop :=
  sum + base * out.toNat = first + second + carry.toNat

namespace Adds

variable {base first second sum : Nat} {carry out : Bool}

/-- A digit goes below the digits of a sum that takes its carry. -/
theorem cons {power high low total : Nat} {last : Bool}
    (here : Adds base first second carry sum out) (rest : Adds power high low out total last) :
    Adds (base * power) (first + base * high) (second + base * low) carry
      (sum + base * total) last := by
  unfold Adds at here rest ⊢
  calc sum + base * total + base * power * last.toNat
      = sum + base * (total + power * last.toNat) := by ring
    _ = sum + base * (high + low + out.toNat) := by rw [rest]
    _ = sum + base * out.toNat + base * (high + low) := by ring
    _ = first + second + carry.toNat + base * (high + low) := by rw [here]
    _ = first + base * high + (second + base * low) + carry.toNat := by ring

theorem sum_eq (adds : Adds base first second carry sum out) (below : sum < base) :
    sum = (first + second + carry.toNat) % base := by
  rw [← adds, Nat.add_mul_mod_self_left, Nat.mod_eq_of_lt below]

theorem out_iff (adds : Adds base first second carry sum out) (below : sum < base) :
    out = true ↔ base ≤ first + second + carry.toNat := by
  unfold Adds at adds
  cases out with
  | false =>
      rw [Bool.toNat_false, Nat.mul_zero, Nat.add_zero] at adds
      exact iff_of_false Bool.false_ne_true (by omega)
  | true =>
      rw [Bool.toNat_true, Nat.mul_one] at adds
      exact iff_of_true rfl (by omega)

/-- What adds up with one number to another is their difference. -/
theorem difference_eq {first second difference : Nat}
    (adds : Adds base second difference carry first out) (below : difference < base) :
    (difference : Int) = ((first : Int) - second - carry.toNat) % base := by
  have total : (first : Int) - second - carry.toNat = difference - base * out.toNat := by
    have whole : ((first + base * out.toNat : Nat) : Int) =
        (second + difference + carry.toNat : Nat) := congrArg _ adds
    push_cast at whole
    linear_combination whole
  rw [total, Int.sub_mul_emod_self_left]
  exact (Int.emod_eq_of_lt (Int.natCast_nonneg _) (Int.ofNat_lt.mpr below)).symm

theorem borrow_iff {first second difference : Nat}
    (adds : Adds base second difference carry first out) (below : difference < base) :
    out = true ↔ first < second + carry.toNat := by
  unfold Adds at adds
  cases out with
  | false =>
      rw [Bool.toNat_false, Nat.mul_zero, Nat.add_zero] at adds
      exact iff_of_false Bool.false_ne_true (by omega)
  | true =>
      rw [Bool.toNat_true, Nat.mul_one] at adds
      exact iff_of_true rfl (by omega)

end Adds

/-! ## Columns -/

/-- What is calculated. -/
inductive Aim where
  | sum
  | difference
  deriving DecidableEq, Repr

namespace Aim

/-- The operation in every column. -/
def operation : Aim → Operation
  | .sum => .adc
  | .difference => .sbc

/-- The result and the carry that is left over are right. A difference adds up with the second
number to the first one. -/
def Exact (aim : Aim) (base first second : Nat) (carry : Bool) (result : Nat) (out : Bool) :
    Prop :=
  match aim with
  | .sum => Adds base first second carry result out
  | .difference => Adds base second result carry first out

theorem Exact.cons {aim : Aim} {base first second result power high low total : Nat}
    {carry out last : Bool} (here : aim.Exact base first second carry result out)
    (rest : aim.Exact power high low out total last) :
    aim.Exact (base * power) (first + base * high) (second + base * low) carry
      (result + base * total) last := by
  cases aim with
  | sum => exact Adds.cons here rest
  | difference => exact Adds.cons here rest

end Aim

theorem exact_addBytes (left right : Byte) (carry : Bool) :
    let result := addBytes left right carry
    Adds 0x100 left.toNat right.toNat carry result.value.toNat result.flags.carry := by
  have := left.toNat_lt
  have := right.toNat_lt
  have := carry.toNat_le
  simp only [Adds, addBytes, UInt8.toNat_ofNat']
  by_cases exceeds : 0xFF < left.toNat + right.toNat + carry.toNat
  · simp only [exceeds, decide_true, Bool.toNat_true]
    omega
  · simp only [exceeds, decide_false, Bool.toNat_false]
    omega

theorem exact_subtractBytes (left right : Byte) (borrow : Bool) :
    let result := subtractBytes left right borrow
    Adds 0x100 right.toNat result.value.toNat borrow left.toNat result.flags.carry := by
  have := left.toNat_lt
  have := right.toNat_lt
  have := borrow.toNat_le
  simp only [Adds, subtractBytes, UInt8.toNat_ofNat']
  by_cases under : left.toNat < right.toNat + borrow.toNat
  · simp only [under, decide_true, Bool.toNat_true]
    omega
  · simp only [under, decide_false, Bool.toNat_false]
    omega

/-- Whether the low digit is corrected. -/
def lowCorrected (value : Byte) (flags : Flags) : Bool :=
  flags.halfCarry || (!flags.subtract && decide (0x09 < value.toNat % 0x10))

/-- Whether the high digit is corrected. -/
def highCorrected (value : Byte) (flags : Flags) : Bool :=
  flags.carry || (!flags.subtract && decide (0x99 < value.toNat))

theorem toNat_decimalCorrection (value : Byte) (flags : Flags) :
    (decimalCorrection value flags).toNat =
      0x06 * (lowCorrected value flags).toNat + 0x60 * (highCorrected value flags).toNat := by
  have low : (0x09 < value &&& 0x0F) ↔ 0x09 < value.toNat % 0x10 := by
    rw [UInt8.lt_iff_toNat_lt, UInt8.toNat_and]
    exact Iff.of_eq (congrArg _ (Nat.and_two_pow_sub_one_eq_mod value.toNat 4))
  have high : (0x99 < value) ↔ 0x99 < value.toNat := UInt8.lt_iff_toNat_lt
  simp only [decimalCorrection, low, high]
  change ((if lowCorrected value flags then (0x06 : Byte) else 0) |||
    if highCorrected value flags then (0x60 : Byte) else 0).toNat = _
  cases lowCorrected value flags <;> cases highCorrected value flags <;> rfl

/-- The carry behind an adjustment tells whether the high digit was corrected. -/
theorem carry_decimalAdjust (value : Byte) (flags : Flags) :
    (decimalAdjust value flags).flags.carry = highCorrected value flags := by
  have corrected := toNat_decimalCorrection value flags
  have least : 0x60 ≤ decimalCorrection value flags ↔
      0x60 ≤ (decimalCorrection value flags).toNat := UInt8.le_iff_toNat_le
  simp only [decimalAdjust, least, corrected]
  cases lowCorrected value flags <;> cases highCorrected value flags <;> rfl

/-- The adjustment behind a sum of decimal digits. The low digit is corrected when it is past
nine, and the high one likewise. -/
theorem exact_decimalAdjust_addBytes {left right : Byte}
    (validLeft : Numeral.packedDecimal.Valid left) (validRight : Numeral.packedDecimal.Valid right)
    (carry : Bool) :
    let sum := addBytes left right carry
    let result := decimalAdjust sum.value sum.flags
    Numeral.packedDecimal.Valid result.value ∧
      Adds 100 (Numeral.packedDecimal.digit left) (Numeral.packedDecimal.digit right) carry
        (Numeral.packedDecimal.digit result.value) result.flags.carry := by
  intro sum result
  obtain ⟨leftHigh, leftLow⟩ := validLeft
  obtain ⟨rightHigh, rightLow⟩ := validRight
  have := carry.toNat_le
  have low : lowCorrected sum.value sum.flags =
      decide (9 < left.toNat % 0x10 + right.toNat % 0x10 + carry.toNat) := by
    simp only [lowCorrected, sum, addBytes, UInt8.toNat_ofNat', Bool.not_false, Bool.true_and,
      ← Bool.decide_or]
    exact decide_eq_decide.mpr (by omega)
  have high : highCorrected sum.value sum.flags =
      decide (0x99 < left.toNat + right.toNat + carry.toNat) := by
    simp only [highCorrected, sum, addBytes, UInt8.toNat_ofNat', Bool.not_false, Bool.true_and,
      ← Bool.decide_or]
    exact decide_eq_decide.mpr (by omega)
  have value : result.value.toNat = (left.toNat + right.toNat + carry.toNat +
      (decimalCorrection sum.value sum.flags).toNat) % 0x100 := by
    have whole : sum.value.toNat = (left.toNat + right.toNat + carry.toNat) % 0x100 :=
      UInt8.toNat_ofNat'
    change (sum.value + decimalCorrection sum.value sum.flags).toNat = _
    rw [UInt8.toNat_add, whole]
    omega
  rw [toNat_decimalCorrection, low, high] at value
  simp only [Numeral.Valid, Adds, Numeral.digit, value, result, carry_decimalAdjust, high]
  by_cases past : 9 < left.toNat % 0x10 + right.toNat % 0x10 + carry.toNat <;>
    by_cases exceeds : 0x99 < left.toNat + right.toNat + carry.toNat <;>
    simp only [past, exceeds, decide_true, decide_false, Bool.toNat_true, Bool.toNat_false] <;>
    omega

/-- The adjustment behind a difference of decimal digits. A digit is corrected when it has
borrowed. -/
theorem exact_decimalAdjust_subtractBytes {left right : Byte}
    (validLeft : Numeral.packedDecimal.Valid left) (validRight : Numeral.packedDecimal.Valid right)
    (borrow : Bool) :
    let difference := subtractBytes left right borrow
    let result := decimalAdjust difference.value difference.flags
    Numeral.packedDecimal.Valid result.value ∧
      Adds 100 (Numeral.packedDecimal.digit right) (Numeral.packedDecimal.digit result.value) borrow
        (Numeral.packedDecimal.digit left) result.flags.carry := by
  intro difference result
  obtain ⟨leftHigh, leftLow⟩ := validLeft
  obtain ⟨rightHigh, rightLow⟩ := validRight
  have := borrow.toNat_le
  have low : lowCorrected difference.value difference.flags =
      decide (left.toNat % 0x10 < right.toNat % 0x10 + borrow.toNat) := by
    simp only [lowCorrected, difference, subtractBytes, Bool.not_true, Bool.false_and,
      Bool.or_false]
  have high : highCorrected difference.value difference.flags =
      decide (left.toNat < right.toNat + borrow.toNat) := by
    simp only [highCorrected, difference, subtractBytes, Bool.not_true, Bool.false_and,
      Bool.or_false]
  have value : result.value.toNat = (left.toNat + 0x200 - (right.toNat + borrow.toNat) +
      0x100 - (decimalCorrection difference.value difference.flags).toNat) % 0x100 := by
    have whole : difference.value.toNat =
        (left.toNat + 0x200 - (right.toNat + borrow.toNat)) % 0x100 % 0x100 := UInt8.toNat_ofNat'
    have := (decimalCorrection difference.value difference.flags).toNat_lt
    change (difference.value - decimalCorrection difference.value difference.flags).toNat = _
    rw [UInt8.toNat_sub, whole]
    omega
  rw [toNat_decimalCorrection, low, high] at value
  simp only [Numeral.Valid, Adds, Numeral.digit, value, result, carry_decimalAdjust, high]
  by_cases past : left.toNat % 0x10 < right.toNat % 0x10 + borrow.toNat <;>
    by_cases under : left.toNat < right.toNat + borrow.toNat <;>
    simp only [past, under, decide_true, decide_false, Bool.toNat_true, Bool.toNat_false] <;>
    omega

section Calculation

variable {β : Type} [Bus β]

/-- The operation of an instruction on the accumulator, and the byte that the accumulator is
combined with: a constant, or what an operand holds. -/
def Core.combined? (core : Core β) : Instruction → Option (Operation × Byte)
  | .accumulate operation source => some (operation, (core.readOperand source).1)
  | .accumulateByte operation value => some (operation, value)
  | _ => none

theorem Core.registers_of_combined {core : Core β} {instruction : Instruction}
    {operation : Operation} {operand : Byte}
    (combined : core.combined? instruction = some (operation, operand)) :
    (core.execute instruction).registers = core.registers.accumulate operation operand := by
  cases instruction with
  | accumulate other source =>
      cases combined
      exact congrArg (fun cpu : State => cpu.registers.accumulate operation _)
        (core.cpu_readOperand source)
  | accumulateByte other value =>
      cases combined
      rfl
  | _ => cases combined

/-- A column is exact. Its digit is in the accumulator, and its carry in the flag. -/
theorem exact_column (numeral : Numeral) (aim : Aim) {core : Core β} {instruction : Instruction}
    {right : Byte} (combined : core.combined? instruction = some (aim.operation, right))
    (validLeft : numeral.Valid core.registers.a) (validRight : numeral.Valid right) :
    let after := (numeral.adjust (core.execute instruction)).registers
    numeral.Valid after.a ∧
      aim.Exact numeral.base (numeral.digit core.registers.a) (numeral.digit right)
        (core.registers.flag .carry) (numeral.digit after.a) (after.flag .carry) := by
  have registers := Core.registers_of_combined combined
  have flags := core.registers.flags_accumulate aim.operation right
  cases numeral with
  | binary =>
      have carry : (core.registers.accumulate aim.operation right).flag .carry = _ :=
        congrArg Flags.carry flags
      simp only [Numeral.adjust, registers, carry]
      cases aim with
      | sum => exact ⟨trivial, exact_addBytes _ _ _⟩
      | difference => exact ⟨trivial, exact_subtractBytes _ _ _⟩
  | packedDecimal =>
      have adjusted : (Numeral.packedDecimal.adjust (core.execute instruction)).registers =
          (core.registers.accumulate aim.operation right).adjustDecimal :=
        congrArg Registers.adjustDecimal registers
      simp only [adjusted, Registers.a_adjustDecimal, Registers.carry_adjustDecimal, flags]
      cases aim with
      | sum => exact exact_decimalAdjust_addBytes validLeft validRight _
      | difference => exact exact_decimalAdjust_subtractBytes validLeft validRight _

/-! ## Calculations -/

/-- A calculation with two numbers, byte by byte. Before each column anything may happen, as
long as the carry is kept and the accumulator holds the byte of the first number in the end.
Then an instruction combines it with the byte of the second number, and decimal digits are
adjusted at once; the result is what the accumulator holds behind that. -/
inductive Calculation (numeral : Numeral) (aim : Aim) :
    Core β → (first second results : List Byte) → Core β → Prop where
  | nil (core : Core β) : Calculation numeral aim core [] [] [] core
  | cons {core ready final : Core β} {instruction : Instruction} {left right : Byte}
      {first second results : List Byte}
      (kept : ready.registers.flag .carry = core.registers.flag .carry)
      (loaded : ready.registers.a = left)
      (combined : ready.combined? instruction = some (aim.operation, right))
      (rest : Calculation numeral aim (numeral.adjust (ready.execute instruction)) first second
        results final) :
      Calculation numeral aim core (left :: first) (right :: second)
        ((numeral.adjust (ready.execute instruction)).registers.a :: results) final

namespace Calculation

variable {numeral : Numeral} {aim : Aim} {core final : Core β} {first second results : List Byte}

/-- Numbers of equal length can be calculated with, from everywhere. -/
theorem exists_of_length (same : first.length = second.length) :
    ∃ results final, Calculation numeral aim core first second results final := by
  induction first generalizing core second with
  | nil =>
      obtain rfl := List.length_eq_zero_iff.mp same.symm
      exact ⟨[], core, .nil core⟩
  | cons left first ih =>
      cases second with
      | nil => cases same
      | cons right second =>
          let ready := core.execute (.loadByte .a left)
          let column := ready.execute (.accumulateByte aim.operation right)
          obtain ⟨results, final, rest⟩ : ∃ results final,
              Calculation numeral aim (numeral.adjust column) first second results final :=
            ih (Nat.succ_injective same)
          have kept : ready.registers.flag .carry = core.registers.flag .carry := rfl
          exact ⟨_, final, .cons kept rfl rfl rest⟩

/-- The columns together are exact. -/
theorem exact (calculation : Calculation numeral aim core first second results final)
    (validFirst : ∀ byte ∈ first, numeral.Valid byte)
    (validSecond : ∀ byte ∈ second, numeral.Valid byte) :
    results.length = first.length ∧ (∀ byte ∈ results, numeral.Valid byte) ∧
      aim.Exact (numeral.base ^ first.length) (numeral.value first) (numeral.value second)
        (core.registers.flag .carry) (numeral.value results)
        (final.registers.flag .carry) := by
  induction calculation with
  | nil core =>
      refine ⟨rfl, List.forall_mem_nil _, ?_⟩
      cases aim <;> simp [Aim.Exact, Adds, Numeral.value]
  | @cons core ready final instruction left right first second results kept loaded combined rest
      ih =>
      subst loaded
      obtain ⟨validLeft, laterFirst⟩ := List.forall_mem_cons.mp validFirst
      obtain ⟨validRight, laterSecond⟩ := List.forall_mem_cons.mp validSecond
      obtain ⟨valid, here⟩ := exact_column numeral aim combined validLeft validRight
      obtain ⟨length, validResults, total⟩ := ih laterFirst laterSecond
      refine ⟨congrArg Nat.succ length, List.forall_mem_cons.mpr ⟨valid, validResults⟩, ?_⟩
      rw [List.length_cons, pow_succ', Numeral.value_cons, Numeral.value_cons,
        Numeral.value_cons, ← kept]
      exact here.cons total

end Calculation

/-- Arithmetic on numbers of any length is exact, in binary and in packed decimal. The bytes of
two numbers, the lowest first, are combined one by one with the carry: from everywhere this can
be done, and whatever else a program does in between, the results are as many digits again.
They are those of the sum with the carry at the start, or of the difference less it, modulo
the base to the number of digits; and in the end the carry tells whether the sum had more
digits, or whether the second number with the carry was greater than the first one. -/
theorem long_arithmetic_exact (core : Core β) (numeral : Numeral) {first second : List Byte}
    (same : first.length = second.length)
    (valid : ∀ byte ∈ first ++ second, numeral.Valid byte) :
    let modulus := numeral.base ^ first.length
    let x := numeral.value first
    let y := numeral.value second
    let carry := (core.registers.flag .carry).toNat
    (∀ aim, ∃ results final, Calculation numeral aim core first second results final) ∧
      (∀ aim results final, Calculation numeral aim core first second results final →
        results.length = first.length ∧ ∀ byte ∈ results, numeral.Valid byte) ∧
      (∀ results final, Calculation numeral .sum core first second results final →
        numeral.value results = (x + y + carry) % modulus ∧
          (final.registers.flag .carry = true ↔ modulus ≤ x + y + carry)) ∧
      ∀ results final, Calculation numeral .difference core first second results final →
        (numeral.value results : Int) = ((x : Int) - y - carry) % modulus ∧
          (final.registers.flag .carry = true ↔ x < y + carry) := by
  intro modulus x y carry
  obtain ⟨validFirst, validSecond⟩ := List.forall_mem_append.mp valid
  have below {aim : Aim} {results : List Byte} {final : Core β}
      (calculation : Calculation numeral aim core first second results final) :
      numeral.value results < modulus := by
    obtain ⟨length, validResults, -⟩ := calculation.exact validFirst validSecond
    exact (Numeral.value_lt validResults).trans_eq (congrArg _ length)
  refine ⟨fun aim => Calculation.exists_of_length same, ?_, ?_, ?_⟩
  · intro aim results final calculation
    obtain ⟨length, validResults, -⟩ := calculation.exact validFirst validSecond
    exact ⟨length, validResults⟩
  · intro results final calculation
    obtain ⟨-, -, adds⟩ := calculation.exact validFirst validSecond
    exact ⟨Adds.sum_eq adds (below calculation), Adds.out_iff adds (below calculation)⟩
  · intro results final calculation
    obtain ⟨-, -, adds⟩ := calculation.exact validFirst validSecond
    exact ⟨Adds.difference_eq adds (below calculation),
      Adds.borrow_iff adds (below calculation)⟩

/-- With the carry set, 4799 and 5200 add up to one more than four decimal digits hold. -/
theorem long_arithmetic_exact_of_round :
    let start : Core Memory.Flat := { cpu := .afterBoot, bus := {} }
    let first : List Byte := [0x99, 0x47]
    let second : List Byte := [0x00, 0x52]
    first.length = second.length ∧
      (∀ byte ∈ first ++ second, Numeral.packedDecimal.Valid byte) ∧
      start.registers.flag .carry = true ∧
      Numeral.packedDecimal.value first = 4799 ∧ Numeral.packedDecimal.value second = 5200 ∧
      ∃ results final, Calculation .packedDecimal .sum start first second results final ∧
        results.length = 2 ∧ Numeral.packedDecimal.value results = 0 ∧
        final.registers.flag .carry = true := by
  intro start first second
  have valid : ∀ byte ∈ first ++ second, Numeral.packedDecimal.Valid byte := by decide +kernel
  have carry : start.registers.flag .carry = true := by decide
  have x : Numeral.packedDecimal.value first = 4799 := by decide
  have y : Numeral.packedDecimal.value second = 5200 := by decide
  have same : first.length = second.length := rfl
  obtain ⟨possible, digits, sums, -⟩ := long_arithmetic_exact start .packedDecimal same valid
  obtain ⟨results, final, calculation⟩ := possible .sum
  obtain ⟨sum, out⟩ := sums results final calculation
  rw [x, y, carry] at sum out
  exact ⟨same, valid, carry, x, y, results, final, calculation,
    (digits .sum results final calculation).1, sum.trans (by decide), out.mpr (by decide)⟩

end Calculation

end GameBoy.Cpu
