import GameBoy.Word
import Mathlib.Algebra.Group.Int.Defs
import Mathlib.Algebra.Group.Nat.Defs

/-!
# Checked operations

Numbers of a fixed width, indices and slices are partial: a sum can overflow, a
difference can fall below zero, a shift can be as long as the number is wide, an
index can lie outside. Here each of these operations has a form that fails then,
beside the condition under which it gives its result. Indices have 32 bits, as on
the narrowest machine that a console runs on.
-/

namespace GameBoy.Checked

/-- A sum of unsigned numbers. -/
def sum? (bits left right : Nat) : Option Nat :=
  if left + right < 2 ^ bits then some (left + right) else none

/-- A product of unsigned numbers. -/
def product? (bits left right : Nat) : Option Nat :=
  if left * right < 2 ^ bits then some (left * right) else none

/-- A difference of unsigned numbers, of any width. -/
def difference? (left right : Nat) : Option Nat :=
  if right ≤ left then some (left - right) else none

/-- A remainder. -/
def remainder? (left right : Nat) : Option Nat :=
  if right = 0 then none else some (left % right)

/-- A number shifted to the left; bits that leave its width are lost. -/
def shiftLeft? (bits value amount : Nat) : Option Nat :=
  if amount < bits then some (value * 2 ^ amount % 2 ^ bits) else none

/-- A number shifted to the right. -/
def shiftRight? (bits value amount : Nat) : Option Nat :=
  if amount < bits then some (value / 2 ^ amount) else none

/-- What shifting a number gives. -/
def shifted? {α : Type} (bits amount : Nat) (result : α) : Option α :=
  if amount < bits then some result else none

/-- The result of signed arithmetic. -/
def signed? (bits : Nat) (value : Int) : Option Int :=
  if -2 ^ (bits - 1) ≤ value ∧ value < 2 ^ (bits - 1) then some value else none

/-- A signed number that is used as an index. -/
def index? (value : Int) : Option Nat :=
  if 0 ≤ value then some value.toNat else none

/-- A number that is used as one of `count` places. -/
def place? (count place : Nat) : Option (Fin count) :=
  if inside : place < count then some ⟨place, inside⟩ else none

/-- A number that is used as one of `count` places from `start` on. -/
def placeFrom? (start count place : Nat) : Option (Fin count) := do
  let offset ← difference? place start
  place? count offset

/-- A cell of a vector replaced. -/
def replace? {α : Type} {count : Nat} (cells : Vector α count) (place : Nat) (value : α) :
    Option (Vector α count) :=
  if inside : place < count then some (cells.set place value) else none

/-- The part of an array between two places. -/
def slice? {α : Type} (cells : Array α) (start stop : Nat) : Option (Array α) :=
  if start ≤ stop ∧ stop ≤ cells.size then some (cells.extract start stop) else none

/-- The elements that a partial test accepts. -/
def filter? {α : Type} (test : α → Option Bool) : List α → Option (List α)
  | [] => some []
  | element :: elements => do
    let accepted ← test element
    let rest ← filter? test elements
    pure (if accepted then element :: rest else rest)

section Results

variable {bits left right value amount : Nat}

@[simp] theorem sum?_of_lt (fits : left + right < 2 ^ bits) :
    sum? bits left right = some (left + right) := if_pos fits

@[simp] theorem product?_of_lt (fits : left * right < 2 ^ bits) :
    product? bits left right = some (left * right) := if_pos fits

@[simp] theorem difference?_of_le (less : right ≤ left) :
    difference? left right = some (left - right) := if_pos less

@[simp] theorem remainder?_of_pos (positive : 0 < right) :
    remainder? left right = some (left % right) := if_neg (Nat.ne_of_gt positive)

@[simp] theorem shiftLeft?_of_lt (short : amount < bits) :
    shiftLeft? bits value amount = some (value * 2 ^ amount % 2 ^ bits) := if_pos short

@[simp] theorem shiftRight?_of_lt (short : amount < bits) :
    shiftRight? bits value amount = some (value / 2 ^ amount) := if_pos short

@[simp] theorem shifted?_of_lt {α : Type} {result : α} (short : amount < bits) :
    shifted? bits amount result = some result := if_pos short

@[simp] theorem signed?_of_mem {value : Int} (above : -2 ^ (bits - 1) ≤ value)
    (below : value < 2 ^ (bits - 1)) : signed? bits value = some value :=
  if_pos ⟨above, below⟩

@[simp] theorem index?_of_nonneg {value : Int} (nonneg : 0 ≤ value) :
    index? value = some value.toNat := if_pos nonneg

@[simp] theorem place?_of_lt {count place : Nat} (inside : place < count) :
    place? count place = some ⟨place, inside⟩ := dif_pos inside

@[simp] theorem placeFrom?_of_lt {start count place : Nat} (above : start ≤ place)
    (inside : place - start < count) :
    placeFrom? start count place = some ⟨place - start, inside⟩ := by
  rw [placeFrom?, difference?_of_le above, Option.bind_eq_bind, Option.bind_some,
    place?_of_lt inside]

@[simp] theorem replace?_of_lt {α : Type} {count place : Nat} {cells : Vector α count}
    {value : α} (inside : place < count) :
    replace? cells place value = some (cells.set place value) := dif_pos inside

@[simp] theorem slice?_of_le {α : Type} {cells : Array α} {start stop : Nat}
    (ordered : start ≤ stop) (inside : stop ≤ cells.size) :
    slice? cells start stop = some (cells.extract start stop) := if_pos ⟨ordered, inside⟩

/-- Where a test never fails, filtering with it is filtering. -/
theorem filter?_of_forall {α : Type} {test : α → Option Bool} {total : α → Bool}
    (succeeds : ∀ element, test element = some (total element)) (elements : List α) :
    filter? test elements = some (elements.filter total) := by
  induction elements with
  | nil => rfl
  | cons element elements ih =>
      rw [filter?, succeeds, ih, List.filter_cons]
      rfl

/-- Where a function never fails, mapping it is mapping. -/
theorem mapM_of_forall {α β : Type} {partly : α → Option β} (total : α → β)
    (succeeds : ∀ element, partly element = some (total element)) (elements : List α) :
    elements.mapM partly = some (elements.map total) := by
  have same : partly = fun element => pure (total element) := funext succeeds
  rw [same, List.mapM_pure]
  rfl

/-- Where a function never fails, folding with it is folding. -/
theorem foldlM_of_forall {α β : Type} {partly : β → α → Option β} (total : β → α → β)
    (succeeds : ∀ result element, partly result element = some (total result element))
    (start : β) (elements : List α) :
    elements.foldlM partly start = some (elements.foldl total start) := by
  have same : partly = fun result element => pure (total result element) :=
    funext fun result => funext (succeeds result)
  rw [same, List.foldlM_pure]
  rfl

/-- Where a function never fails, searching with it is searching. -/
theorem findSomeM?_of_forall {α β : Type} {partly : α → Option (Option β)}
    (total : α → Option β) (succeeds : ∀ element, partly element = some (total element))
    (elements : List α) :
    elements.findSomeM? partly = some (elements.findSome? total) := by
  have same : partly = fun element => pure (total element) := funext succeeds
  rw [same, List.findSomeM?_pure]
  rfl

/-- Where a function never fails, the vector of its values is there. -/
theorem ofFnM_of_forall {α : Type} {count : Nat} {partly : Fin count → Option α}
    {total : Fin count → α} (succeeds : ∀ place, partly place = some (total place)) :
    Vector.ofFnM partly = some (Vector.ofFn total) := by
  have same : partly = fun place => pure (total place) := funext succeeds
  rw [same, Vector.ofFnM_pure]
  rfl

end Results

end GameBoy.Checked
