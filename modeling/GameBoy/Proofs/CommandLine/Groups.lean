import GameBoy.CommandLine.Options
import Mathlib.Tactic.Common

/-!
# The groups of an argument list

Read from the left, an argument list falls into groups: an option with the argument behind
it, whatever that is, or an argument that no option claims. An option may lack its value at the
end. There is one way only to take a list apart like that.
-/

namespace GameBoy.CommandLine

theorem OptionName.ofText?_eq_some_iff {argument : String} {option : OptionName} :
    OptionName.ofText? argument = some option ↔ argument = option.text := by
  constructor
  · intro found
    rw [ofText?] at found
    have written := List.find?_some found
    exact (beq_iff_eq.mp written).symm
  · rintro rfl
    cases option <;> rfl

theorem OptionName.ofText?_eq_none_iff {argument : String} :
    OptionName.ofText? argument = none ↔ ∀ option : OptionName, argument ≠ option.text := by
  simp only [Option.eq_none_iff_forall_ne_some, ne_eq, OptionName.ofText?_eq_some_iff]

/-! ## Taking a list apart -/

/-- A part of an argument list: an option with the argument behind it, an option behind which
nothing comes, or an argument that no option claims. -/
inductive ArgumentGroup where
  | setting (option : OptionName) (value : String)
  | unfinished (option : OptionName)
  | single (argument : String)
  deriving DecidableEq, Repr

namespace ArgumentGroup

/-- The arguments of a group. -/
def tokens : ArgumentGroup → List String
  | .setting option value => [option.text, value]
  | .unfinished option => [option.text]
  | .single argument => [argument]

/-- The groups of an argument list, read from the left. -/
def ofArguments : List String → List ArgumentGroup
  | [] => []
  | [argument] =>
    match OptionName.ofText? argument with
    | some option => [.unfinished option]
    | none => [.single argument]
  | argument :: value :: rest =>
    match OptionName.ofText? argument with
    | some option => .setting option value :: ofArguments rest
    | none => .single argument :: ofArguments (value :: rest)

@[simp] theorem ofArguments_setting (option : OptionName) (value : String)
    (rest : List String) :
    ofArguments (option.text :: value :: rest) = .setting option value :: ofArguments rest := by
  rw [ofArguments, OptionName.ofText?_eq_some_iff.mpr rfl]

@[simp] theorem ofArguments_unfinished (option : OptionName) :
    ofArguments [option.text] = [.unfinished option] := by
  rw [ofArguments, OptionName.ofText?_eq_some_iff.mpr rfl]

theorem ofArguments_single {argument : String}
    (unclaimed : ∀ option : OptionName, argument ≠ option.text) (rest : List String) :
    ofArguments (argument :: rest) = .single argument :: ofArguments rest := by
  have none := OptionName.ofText?_eq_none_iff.mpr unclaimed
  cases rest with
  | nil => simp [ofArguments, none]
  | cons value rest => rw [ofArguments, none]

/-- The rules by which an argument list falls into groups: an argument that is written like
an option is one, and only at the end can its value be missing. -/
inductive Proper : List ArgumentGroup → Prop where
  | nil : Proper []
  | unfinished (option : OptionName) : Proper [.unfinished option]
  | setting (option : OptionName) (value : String) {groups : List ArgumentGroup}
      (rest : Proper groups) : Proper (.setting option value :: groups)
  | single {argument : String} (unclaimed : ∀ option : OptionName, argument ≠ option.text)
      {groups : List ArgumentGroup} (rest : Proper groups) :
      Proper (.single argument :: groups)

variable {groups : List ArgumentGroup}

theorem Proper.unclaimed (proper : Proper groups) {argument : String}
    (member : .single argument ∈ groups) (option : OptionName) : argument ≠ option.text := by
  induction proper with
  | nil => cases member
  | unfinished => simp at member
  | setting _ _ rest ih => exact ih (by simpa using member)
  | single unclaimed rest ih =>
      obtain same | later := List.mem_cons.mp member
      · cases same
        exact unclaimed option
      · exact ih later

theorem proper_of_finished (finished : ∀ option, .unfinished option ∉ groups)
    (unclaimed : ∀ argument, .single argument ∈ groups →
      ∀ option : OptionName, argument ≠ option.text) : Proper groups := by
  induction groups with
  | nil => exact .nil
  | cons group groups ih =>
      have rest := ih (fun option => mt (List.mem_cons_of_mem group) (finished option))
        fun argument => unclaimed argument ∘ List.mem_cons_of_mem group
      cases group with
      | setting option value => exact .setting option value rest
      | unfinished option => exact absurd List.mem_cons_self (finished option)
      | single argument => exact .single (unclaimed argument List.mem_cons_self) rest

/-- The groups of an argument list hold its arguments, in their order. -/
theorem flatMap_tokens_ofArguments (arguments : List String) :
    (ofArguments arguments).flatMap tokens = arguments := by
  fun_induction ofArguments arguments with
  | case1 => rfl
  | case2 argument option found => simp [tokens, OptionName.ofText?_eq_some_iff.mp found]
  | case3 argument => simp [tokens]
  | case4 argument value rest option found ih =>
      simp [tokens, ih, OptionName.ofText?_eq_some_iff.mp found]
  | case5 argument value rest found ih => simp [tokens, ih]

theorem proper_ofArguments (arguments : List String) : Proper (ofArguments arguments) := by
  fun_induction ofArguments arguments with
  | case1 => exact .nil
  | case2 argument option => exact .unfinished option
  | case3 argument unclaimed =>
      exact .single (OptionName.ofText?_eq_none_iff.mp unclaimed) .nil
  | case4 argument value rest option _ ih => exact .setting option value ih
  | case5 argument value rest unclaimed ih =>
      exact .single (OptionName.ofText?_eq_none_iff.mp unclaimed) ih

theorem ofArguments_flatMap_tokens (proper : Proper groups) :
    ofArguments (groups.flatMap tokens) = groups := by
  induction proper with
  | nil => rfl
  | unfinished option => simp [tokens]
  | setting option value rest ih => simp [tokens, ih]
  | single unclaimed rest ih => simp [tokens, ofArguments_single unclaimed, ih]

/-- The groups are the only ones that follow the rules. -/
theorem ofArguments_eq_iff {arguments : List String} :
    ofArguments arguments = groups ↔ groups.flatMap tokens = arguments ∧ Proper groups := by
  constructor
  · rintro rfl
    exact ⟨flatMap_tokens_ofArguments arguments, proper_ofArguments arguments⟩
  · rintro ⟨rfl, proper⟩
    exact ofArguments_flatMap_tokens proper

/-! ## What stands in the groups -/

/-- The value that a group gives an option. -/
def value? (option : OptionName) : ArgumentGroup → Option String
  | .setting other value => if other = option then some value else none
  | .unfinished _ | .single _ => none

/-- The argument of a group that no option claims. -/
def single? : ArgumentGroup → Option String
  | .single argument => some argument
  | .setting .. | .unfinished _ => none

/-- The values that groups give an option, the last one to its last occurrence. -/
def values (option : OptionName) (groups : List ArgumentGroup) : List String :=
  groups.filterMap (value? option)

/-- The arguments that no option claims. -/
def singles (groups : List ArgumentGroup) : List String :=
  groups.filterMap single?

section

variable (option : OptionName)

@[simp] theorem values_append (earlier later : List ArgumentGroup) :
    values option (earlier ++ later) = values option earlier ++ values option later :=
  List.filterMap_append

@[simp] theorem values_setting (other : OptionName) (value : String) :
    values option [.setting other value] = if other = option then [value] else [] := by
  by_cases same : other = option <;> simp [values, value?, same]

@[simp] theorem values_unfinished (other : OptionName) :
    values option [.unfinished other] = [] :=
  rfl

@[simp] theorem values_single (argument : String) : values option [.single argument] = [] :=
  rfl

@[simp] theorem singles_append (earlier later : List ArgumentGroup) :
    singles (earlier ++ later) = singles earlier ++ singles later :=
  List.filterMap_append

@[simp] theorem singles_setting (value : String) : singles [.setting option value] = [] :=
  rfl

@[simp] theorem singles_unfinished : singles [.unfinished option] = [] :=
  rfl

@[simp] theorem singles_single (argument : String) :
    singles [.single argument] = [argument] :=
  rfl

end

end ArgumentGroup

end GameBoy.CommandLine
