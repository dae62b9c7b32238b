import GameBoy.Timer
import Mathlib.Data.List.Basic
import Mathlib.Logic.Basic

/-!
# Histories of the timer

The timer changes when a clock cycle passes and when one of its registers is
written. A history lists these changes with the clock cycle at which each was
complete. It is faithful when the timer register counts the falling edges of the
watched signal and nothing else, and when wraps and interrupt requests belong
together in pairs: a wrap is followed by its request four cycles later unless the
processor cancels it before, and every request has such a wrap.

That a history is faithful comes down to the order of events. An edge must not fall
while a reload is scheduled, a write of the timer register must not be lost while one
is, and two edges must not fall in the same cycle.
-/

namespace GameBoy.Timer

/-- The registers of the timer. -/
inductive Register where
  | divider
  | count
  | modulo
  | control
  deriving DecidableEq, Repr

/-- Whether a write of the register can make the watched signal fall. -/
def Register.gates : Register → Bool
  | .divider | .control => true
  | .count | .modulo => false

/-- Write a register. -/
def writeRegister (timer : Timer) (value : Byte) : Register → Timer
  | .divider => timer.resetDivider
  | .count => timer.writeCount value
  | .modulo => timer.writeModulo value
  | .control => timer.writeControl value

/-- What happens to the timer: a clock cycle passes, or a register is written. -/
inductive Action where
  | tick
  | write (register : Register) (value : Byte)
  deriving DecidableEq, Repr

namespace Action

/-- Clock cycles that an action takes. -/
def cycles : Action → Nat
  | .tick => 1
  | .write _ _ => 0

/-- Whether an action writes a register that can make the watched signal fall. -/
def gates : Action → Bool
  | .tick => false
  | .write register _ => register.gates

/-- Whether an action writes the timer register. -/
def writesCount : Action → Bool
  | .write .count _ => true
  | _ => false

/-- Clock cycles that a list of actions takes. -/
def duration : List Action → Nat
  | [] => 0
  | action :: actions => action.cycles + duration actions

end Action

/-- The timer after an action, and whether it requests an interrupt. -/
def perform (timer : Timer) : Action → Timer × Bool
  | .tick => timer.tick
  | .write register value => (timer.writeRegister value register, false)

/-- The timer after a list of actions. -/
def performAll (timer : Timer) : List Action → Timer
  | [] => timer
  | action :: actions => (timer.perform action).1.performAll actions

/-- An action with the timer before and after it. -/
structure Change where
  /-- Clock cycles until the change was complete. -/
  date : Nat
  action : Action
  before : Timer
  after : Timer
  /-- Whether an interrupt was requested. -/
  raised : Bool

/-- The change that an action makes. -/
def change (timer : Timer) (elapsed : Nat) (action : Action) : Change where
  date := elapsed + action.cycles
  action := action
  before := timer
  after := (timer.perform action).1
  raised := (timer.perform action).2

/-- The changes that a list of actions makes, after some cycles have elapsed. -/
def changes (timer : Timer) (elapsed : Nat) : List Action → List Change
  | [] => []
  | action :: actions =>
    let change := timer.change elapsed action
    change :: change.after.changes change.date actions

/-! ## Faithful histories -/

namespace Change

/-- The watched signal falls. -/
def Falls (change : Change) : Prop :=
  change.before.input = true ∧ change.after.input = false

/-- The timer register wraps to zero. -/
def Wraps (change : Change) : Prop :=
  change.Falls ∧ change.before.count = 0xFF ∧ change.after.count = 0

/-- What a change loads into the timer register, whatever it counts: the modulo with a
request, a value written to the register, or a modulo written in the window after a
reload. -/
def loaded? (change : Change) : Option Byte :=
  match change.action with
  | .tick => if change.raised then some change.before.modulo else none
  | .write .count value => if change.before.reloadWindow = 0 then some value else none
  | .write .modulo value => if change.before.reloadWindow = 0 then none else some value
  | .write _ _ => none

/-- The timer register is incremented exactly where the signal falls. -/
def Counts (change : Change) : Prop :=
  (change.Falls → change.loaded? = none ∧ change.after.count = change.before.count + 1) ∧
    (¬ change.Falls → change.after.count = change.loaded?.getD change.before.count)

/-- Nothing happens that bears on a scheduled reload. -/
structure Quiet (change : Change) : Prop where
  silent : change.raised = false
  unwrapped : ¬ change.Wraps
  uncancelled : change.action.writesCount = false

/-- A scheduled reload takes place: the timer register takes the modulo of this moment,
and an interrupt is requested. -/
structure Reloads (due : Nat) (change : Change) : Prop where
  ticks : change.action = .tick
  punctual : change.date = due
  raises : change.raised = true
  takes : change.after.count = change.before.modulo

/-- A scheduled reload is cancelled: the timer register takes a written value. -/
structure Cancels (due : Nat) (change : Change) : Prop where
  early : change.date < due
  takes : ∃ value, change.action = .write .count value ∧ change.after.count = value

end Change

/-- A history that ends before a scheduled reload is due, with nothing that bears on
it. -/
def Awaits (due : Nat) (later : List Change) : Prop :=
  ∀ change ∈ later, change.Quiet ∧ change.date < due

/-- A history in which a scheduled reload takes place. -/
def Completes (due : Nat) (later : List Change) : Prop :=
  ∃ waiting reload rest, later = waiting ++ reload :: rest ∧
    Awaits due waiting ∧ reload.Reloads due

/-- A history in which a scheduled reload is cancelled: until it would have been due,
no interrupt is requested. -/
def Abandons (due : Nat) (later : List Change) : Prop :=
  ∃ waiting cancel rest, later = waiting ++ cancel :: rest ∧
    Awaits due waiting ∧ cancel.Cancels due ∧
    ∀ change ∈ later, change.raised = true → due < change.date

/-- Before a request there is a wrap that it belongs to: four cycles ago, with nothing
since that bears on it. -/
def Caused (earlier : List Change) (date : Nat) : Prop :=
  ∃ before wrap waiting, earlier = before ++ wrap :: waiting ∧ wrap.Wraps ∧
    date = wrap.date + 4 ∧ ∀ change ∈ waiting, change.Quiet

/-- Edges are counted, and wraps and requests belong together. -/
structure Faithful (changes : List Change) : Prop where
  counts : ∀ change ∈ changes, change.Counts
  settles : ∀ earlier wrap later, changes = earlier ++ wrap :: later → wrap.Wraps →
    Awaits (wrap.date + 4) later ∨
      Xor (Completes (wrap.date + 4) later) (Abandons (wrap.date + 4) later)
  caused : ∀ earlier raise later, changes = earlier ++ raise :: later →
    raise.raised = true → Caused earlier raise.date

/-! ## Counting an edge -/

/-- The timer after an action, before the edge is counted that the action may have
caused. -/
def uncounted (timer : Timer) : Action → Timer
  | .tick => { timer.progressReload.1 with counter := timer.counter + 1 }
  | .write .divider _ => { timer with counter := 0 }
  | .write .count value => timer.writeCount value
  | .write .modulo value => timer.writeModulo value
  | .write .control value => { timer with control := value &&& controlBits }

section Edge

variable (timer : Timer) (before : Bool)

@[simp] theorem control_increment : timer.increment.control = timer.control := by
  unfold increment
  split <;> rfl

@[simp] theorem reloadWindow_increment :
    timer.increment.reloadWindow = timer.reloadWindow := by
  unfold increment
  split <;> rfl

@[simp] theorem count_increment : timer.increment.count = timer.count + 1 := by
  unfold increment
  split
  next full => exact full ▸ rfl
  next => rfl

theorem reloadDelay_increment :
    timer.increment.reloadDelay =
      if timer.count = 0xFF then reloadCycles else timer.reloadDelay := by
  unfold increment
  split <;> rfl

/-- The signal is a function of the counter and the control register. -/
theorem input_congr {first second : Timer} (counter : first.counter = second.counter)
    (control : first.control = second.control) : first.input = second.input := by
  simp only [input, running, watchedBit, counter, control]

@[simp] theorem input_increment : timer.increment.input = timer.input :=
  input_congr timer.counter_increment timer.control_increment

@[simp] theorem input_countEdge : (countEdge before timer).input = timer.input := by
  unfold countEdge
  split
  · exact timer.input_increment
  · rfl

/-- An edge falls, and is counted. -/
theorem countEdge_of_falls (low : timer.input = false) :
    countEdge true timer = timer.increment := by
  simp [countEdge, low]

/-- Nothing falls, and nothing is counted. -/
theorem countEdge_of_not_falls (steady : ¬ (before = true ∧ timer.input = false)) :
    countEdge before timer = timer := by
  unfold countEdge
  rw [if_neg]
  simpa using steady

end Edge

section Step

variable (timer : Timer)

@[simp] theorem counter_progressReload : timer.progressReload.1.counter = timer.counter := by
  unfold progressReload
  split <;> rfl

theorem input_progressReload : timer.progressReload.1.input = timer.input := by
  unfold progressReload
  split <;> rfl

/-- A write of another register does not touch the signal. -/
theorem input_of_ungated (value : Byte) {register : Register}
    (ungated : register.gates = false) :
    (timer.writeRegister value register).input = timer.input := by
  cases register with
  | divider | control => exact nomatch ungated
  | count =>
      simp only [writeRegister, writeCount]
      split <;> rfl
  | modulo =>
      simp only [writeRegister, writeModulo]
      split <;> rfl

theorem raised_tick : timer.tick.2 = decide (timer.reloadDelay = 1) := by
  simp only [tick, progressReload]
  split
  next last => simp [last]
  next more => simp [more]

theorem uncounted_of_ungated (value : Byte) {register : Register}
    (ungated : register.gates = false) :
    timer.uncounted (.write register value) = timer.writeRegister value register := by
  cases register with
  | divider | control => exact nomatch ungated
  | count | modulo => rfl

theorem countEdge_of_ungated (value : Byte) {register : Register}
    (ungated : register.gates = false) :
    countEdge timer.input (timer.uncounted (.write register value)) =
      timer.writeRegister value register := by
  rw [timer.uncounted_of_ungated value ungated, countEdge_of_not_falls]
  rw [timer.input_of_ungated value ungated]
  simp

/-- A change is made first, and the edge that it causes is counted then. -/
theorem perform_eq (action : Action) :
    (timer.perform action).1 = countEdge timer.input (timer.uncounted action) := by
  cases action with
  | tick => simp only [perform, tick, uncounted, counter_progressReload, input_progressReload]
  | write register value =>
      cases register with
      | divider | control => rfl
      | count =>
          exact (timer.countEdge_of_ungated value (rfl : Register.count.gates = false)).symm
      | modulo =>
          exact (timer.countEdge_of_ungated value (rfl : Register.modulo.gates = false)).symm

end Step

namespace Change

/-- The order in which a change has to come: an edge must not fall while a reload is
scheduled, and a write of the timer register must not be lost while one is. -/
structure Orderly (change : Change) : Prop where
  alone : change.Falls → change.before.reloadDelay = 0
  heard : change.action.writesCount = true →
    change.before.reloadDelay = 0 ∨ change.before.reloadWindow = 0

end Change

section OneChange

variable {timer : Timer} {elapsed : Nat} {action : Action}

theorem falls_iff :
    (timer.change elapsed action).Falls ↔
      timer.input = true ∧ (timer.uncounted action).input = false := by
  simp only [Change.Falls, change, perform_eq, input_countEdge]

theorem after_of_falls (falls : (timer.change elapsed action).Falls) :
    (timer.change elapsed action).after = (timer.uncounted action).increment := by
  obtain ⟨high, low⟩ := falls_iff.mp falls
  simp only [change, perform_eq, high]
  exact countEdge_of_falls _ low

theorem after_of_not_falls (steady : ¬ (timer.change elapsed action).Falls) :
    (timer.change elapsed action).after = timer.uncounted action := by
  rw [falls_iff] at steady
  simp only [change, perform_eq]
  exact countEdge_of_not_falls _ _ steady

/-- The signal falls only in a clock cycle and with a write that can make it fall. -/
theorem tick_or_gates_of_falls (falls : (timer.change elapsed action).Falls) :
    action = .tick ∨ action.gates = true := by
  cases action with
  | tick => exact .inl rfl
  | write register value =>
      right
      by_contra gates
      have same := timer.input_of_ungated value (Bool.eq_false_iff.mpr gates)
      exact nomatch falls.1.symm.trans (same.symm.trans falls.2)

theorem count_uncounted (elapsed : Nat) :
    (timer.uncounted action).count =
      (timer.change elapsed action).loaded?.getD timer.count := by
  cases action with
  | tick =>
      simp only [uncounted, progressReload, Change.loaded?, change, perform, raised_tick]
      split
      next last => simp [last]
      next more => simp [more]
  | write register value =>
      cases register with
      | divider | control => rfl
      | count =>
          simp only [uncounted, writeCount, Change.loaded?, change, Nat.pos_iff_ne_zero]
          split <;> simp_all
      | modulo =>
          simp only [uncounted, writeModulo, Change.loaded?, change, Nat.pos_iff_ne_zero]
          split <;> simp_all

/-- Neither a reload nor a write of the timer register comes with an edge. -/
theorem loaded?_of_falls (orderly : (timer.change elapsed action).Orderly)
    (falls : (timer.change elapsed action).Falls) :
    (timer.change elapsed action).loaded? = none := by
  have idle : timer.reloadDelay = 0 := orderly.alone falls
  rcases tick_or_gates_of_falls falls with ticks | gates
  · subst ticks
    simp [Change.loaded?, change, perform, raised_tick, idle]
  · cases action with
    | tick => exact nomatch gates
    | write register value =>
        cases register with
        | divider | control => rfl
        | count | modulo => exact nomatch gates

theorem count_of_falls (orderly : (timer.change elapsed action).Orderly)
    (falls : (timer.change elapsed action).Falls) :
    (timer.uncounted action).count = timer.count := by
  rw [count_uncounted elapsed, loaded?_of_falls orderly falls]
  rfl

theorem Change.Orderly.counts (orderly : (timer.change elapsed action).Orderly) :
    (timer.change elapsed action).Counts := by
  constructor
  · intro falls
    refine ⟨loaded?_of_falls orderly falls, ?_⟩
    rw [after_of_falls falls, count_increment, count_of_falls orderly falls]
    rfl
  · intro steady
    rw [after_of_not_falls steady, count_uncounted elapsed]
    rfl

/-! ## Scheduled reloads -/

theorem reloadDelay_of_wraps (wraps : (timer.change elapsed action).Wraps) :
    (timer.change elapsed action).after.reloadDelay = 4 := by
  obtain ⟨falls, -, zero⟩ := wraps
  rw [after_of_falls falls, count_increment] at zero
  have full : (timer.uncounted action).count = 0xFF := (UInt8.add_left_inj 1).mp zero
  rw [after_of_falls falls, reloadDelay_increment, if_pos full]
  rfl

theorem reloadDelay_of_not_wraps (orderly : (timer.change elapsed action).Orderly)
    (unwrapped : ¬ (timer.change elapsed action).Wraps) :
    (timer.change elapsed action).after.reloadDelay =
      (timer.uncounted action).reloadDelay := by
  by_cases falls : (timer.change elapsed action).Falls
  · rw [after_of_falls falls, reloadDelay_increment, if_neg]
    intro full
    have before : timer.count = 0xFF := count_of_falls orderly falls ▸ full
    refine unwrapped ⟨falls, before, ?_⟩
    rw [after_of_falls falls, count_increment, full]
    rfl
  · rw [after_of_not_falls falls]

theorem reloadDelay_uncounted_tick :
    (timer.uncounted .tick).reloadDelay = timer.reloadDelay - 1 := by
  simp only [uncounted, progressReload]
  split
  next last => simp [last]
  next => rfl

/-- While the delay does not run out and nothing wraps, the reload comes nearer. -/
theorem nears (orderly : (timer.change elapsed action).Orderly)
    (unwrapped : ¬ (timer.change elapsed action).Wraps)
    (waiting : (timer.change elapsed action).after.reloadDelay ≠ 0) :
    (timer.change elapsed action).Quiet ∧ timer.reloadDelay ≠ 0 ∧
      (timer.change elapsed action).date + (timer.change elapsed action).after.reloadDelay =
        elapsed + timer.reloadDelay := by
  have left := reloadDelay_of_not_wraps orderly unwrapped
  rw [left] at waiting ⊢
  cases action with
  | tick =>
      rw [reloadDelay_uncounted_tick] at waiting ⊢
      have silent : timer.tick.2 = false := by
        rw [raised_tick, decide_eq_false_iff_not]
        omega
      refine ⟨⟨silent, unwrapped, rfl⟩, by omega, ?_⟩
      simp only [change, Action.cycles]
      omega
  | write register value =>
      cases register with
      | divider | control => exact ⟨⟨rfl, unwrapped, rfl⟩, waiting, rfl⟩
      | count =>
          have heard : timer.reloadDelay = 0 ∨ timer.reloadWindow = 0 := orderly.heard rfl
          simp only [uncounted, writeCount] at waiting
          split at waiting
          next windowed => omega
          next => exact absurd rfl waiting
      | modulo =>
          have same : (timer.uncounted (.write .modulo value)).reloadDelay =
              timer.reloadDelay := by
            simp only [uncounted, writeModulo]
            split <;> rfl
          rw [same] at waiting ⊢
          exact ⟨⟨rfl, unwrapped, rfl⟩, waiting, rfl⟩

/-- Where a reload is scheduled after a change, a wrap has just scheduled it, or it was
scheduled before. -/
theorem scheduled_after (orderly : (timer.change elapsed action).Orderly)
    (waiting : (timer.change elapsed action).after.reloadDelay ≠ 0) :
    ((timer.change elapsed action).Wraps ∧
        (timer.change elapsed action).after.reloadDelay = 4) ∨
      (timer.change elapsed action).Quiet ∧ timer.reloadDelay ≠ 0 ∧
        (timer.change elapsed action).date +
          (timer.change elapsed action).after.reloadDelay = elapsed + timer.reloadDelay := by
  by_cases wraps : (timer.change elapsed action).Wraps
  · exact .inl ⟨wraps, reloadDelay_of_wraps wraps⟩
  · exact .inr (nears orderly wraps waiting)

/-- A scheduled reload takes place, or is cancelled, or comes nearer. -/
theorem scheduled_before (orderly : (timer.change elapsed action).Orderly)
    (scheduled : timer.reloadDelay ≠ 0) :
    (timer.change elapsed action).Reloads (elapsed + timer.reloadDelay) ∨
      (timer.change elapsed action).Cancels (elapsed + timer.reloadDelay) ∧
        (timer.change elapsed action).after.reloadDelay = 0 ∨
      (timer.change elapsed action).Quiet ∧
        (timer.change elapsed action).after.reloadDelay ≠ 0 ∧
        (timer.change elapsed action).date +
          (timer.change elapsed action).after.reloadDelay = elapsed + timer.reloadDelay := by
  have steady : ¬ (timer.change elapsed action).Falls := fun falls =>
    scheduled (orderly.alone falls)
  have unwrapped : ¬ (timer.change elapsed action).Wraps := fun wraps => steady wraps.1
  by_cases waiting : (timer.change elapsed action).after.reloadDelay = 0
  -- Only the last cycle of the delay and a write of the timer register end it.
  · rw [after_of_not_falls steady] at waiting ⊢
    cases action with
    | tick =>
        rw [reloadDelay_uncounted_tick] at waiting
        have last : timer.reloadDelay = 1 := by omega
        refine .inl ⟨rfl, ?_, ?_, ?_⟩
        · rw [last]
          rfl
        · exact (raised_tick timer).trans (decide_eq_true last)
        · rw [after_of_not_falls steady]
          simp only [uncounted, progressReload, if_pos last, change]
    | write register value =>
        cases register with
        | divider | control => exact absurd waiting scheduled
        | count =>
            have heard : timer.reloadDelay = 0 ∨ timer.reloadWindow = 0 := orderly.heard rfl
            have closed : ¬ 0 < timer.reloadWindow := by omega
            refine .inr (.inl ⟨⟨?_, value, rfl, ?_⟩, waiting⟩)
            · simp only [change, Action.cycles]
              omega
            · rw [after_of_not_falls steady]
              simp only [uncounted, writeCount, if_neg closed]
        | modulo =>
            simp only [uncounted, writeModulo] at waiting
            split at waiting <;> exact absurd waiting scheduled
  · obtain ⟨quiet, -, due⟩ := nears orderly unwrapped waiting
    exact .inr (.inr ⟨quiet, waiting, due⟩)

end OneChange

/-! ## Lists of changes -/

section Changes

variable {timer : Timer} {elapsed : Nat} {actions : List Action}

theorem performAll_append (timer : Timer) (first second : List Action) :
    timer.performAll (first ++ second) = (timer.performAll first).performAll second := by
  induction first generalizing timer with
  | nil => rfl
  | cons action first ih => exact ih _

theorem changes_append (timer : Timer) (elapsed : Nat) (first second : List Action) :
    timer.changes elapsed (first ++ second) =
      timer.changes elapsed first ++
        (timer.performAll first).changes (elapsed + Action.duration first) second := by
  induction first generalizing timer elapsed with
  | nil => rfl
  | cons action first ih =>
      simp only [List.cons_append, changes, ih, performAll, Action.duration, ← Nat.add_assoc]
      rfl

/-- The timer after a number of clock cycles. -/
theorem run_eq (timer : Timer) (elapsed cycles : Nat) :
    timer.run cycles =
      (timer.performAll (List.replicate cycles .tick),
        (timer.changes elapsed (List.replicate cycles .tick)).countP Change.raised) := by
  induction cycles generalizing timer elapsed with
  | zero => rfl
  | succ cycles ih =>
      simp only [run, List.replicate_succ, performAll, changes, List.countP_cons,
        ih _ (elapsed + 1), Nat.add_comm timer.tick.2.toNat]
      congr 2
      change timer.tick.2.toNat = if timer.tick.2 = true then 1 else 0
      cases timer.tick.2 <;> rfl

/-- A change of a history is made by an action, and what follows is a history again. -/
theorem exists_of_split {earlier later : List Change} {change : Change}
    (split : timer.changes elapsed actions = earlier ++ change :: later) :
    ∃ before date action rest, change = Timer.change before date action ∧
      elapsed ≤ date ∧ later = change.after.changes change.date rest := by
  induction actions generalizing timer elapsed earlier with
  | nil => simp [changes] at split
  | cons action actions ih =>
      cases earlier with
      | nil =>
          injection split with head tail
          exact ⟨timer, elapsed, action, actions, head.symm, Nat.le_refl _, head ▸ tail.symm⟩
      | cons first earlier =>
          injection split with head tail
          obtain ⟨before, date, action, rest, made, late, after⟩ := ih tail
          exact ⟨before, date, action, rest, made, Nat.le_trans (Nat.le_add_right _ _) late, after⟩

theorem exists_of_mem {change : Change} (made : change ∈ timer.changes elapsed actions) :
    ∃ before date action, change = Timer.change before date action ∧ elapsed ≤ date := by
  obtain ⟨earlier, later, split⟩ := List.append_of_mem made
  obtain ⟨before, date, action, -, same, late, -⟩ := exists_of_split split
  exact ⟨before, date, action, same, late⟩

theorem le_date {change : Change} (made : change ∈ timer.changes elapsed actions) :
    elapsed + change.action.cycles ≤ change.date := by
  obtain ⟨before, date, action, rfl, late⟩ := exists_of_mem made
  exact Nat.add_le_add_right late _

/-- Two writes that can make the signal fall do not come at the same time. -/
def GatesApart (first second : Change) : Prop :=
  first.action.gates = true → second.action.gates = true → first.date < second.date

/-- From a low signal no edge falls before time has passed. -/
theorem falls_late (apart : (timer.changes elapsed actions).Pairwise GatesApart)
    (low : timer.input = false) {edge : Change}
    (made : edge ∈ timer.changes elapsed actions) (falls : edge.Falls) :
    elapsed < edge.date := by
  induction actions generalizing timer elapsed with
  | nil => exact nomatch made
  | cons action actions ih =>
      obtain ⟨first, rest⟩ := List.pairwise_cons.mp apart
      rcases List.mem_cons.mp made with rfl | later
      · exact absurd (falls.1.symm.trans low) (by simp)
      -- The signal may rise meanwhile, but then the only write of this date that could let
      -- it fall is spent.
      · have late := le_date later
        cases action with
        | tick =>
            simp only [change, Action.cycles] at late
            omega
        | write register value =>
            by_cases gates : register.gates = true
            · obtain ⟨before, date, action, rfl, -⟩ := exists_of_mem later
              rcases tick_or_gates_of_falls falls with ticks | second
              · subst ticks
                simp only [change, Action.cycles] at late ⊢
                omega
              · exact first _ later gates second
            · have same := timer.input_of_ungated value (Bool.eq_false_iff.mpr gates)
              exact ih rest (same.trans low) later

/-- Two edges do not fall at the same time. -/
theorem falls_apart (apart : (timer.changes elapsed actions).Pairwise GatesApart) :
    (timer.changes elapsed actions).Pairwise fun first second =>
      first.Falls → second.Falls → first.date < second.date := by
  induction actions generalizing timer elapsed with
  | nil => exact .nil
  | cons action actions ih =>
      obtain ⟨-, rest⟩ := List.pairwise_cons.mp apart
      refine List.pairwise_cons.mpr ⟨?_, ih rest⟩
      intro second later falls again
      exact falls_late rest falls.2 later again

/-- Behind every request there is a wrap, unless the reload was scheduled from the
start. -/
theorem caused_or_scheduled
    (orderly : ∀ change ∈ timer.changes elapsed actions, change.Orderly)
    {earlier later : List Change} {raise : Change}
    (split : timer.changes elapsed actions = earlier ++ raise :: later)
    (raised : raise.raised = true) :
    Caused earlier raise.date ∨ timer.reloadDelay ≠ 0 ∧
      raise.date = elapsed + timer.reloadDelay ∧ ∀ change ∈ earlier, change.Quiet := by
  induction actions generalizing timer elapsed earlier with
  | nil => simp [changes] at split
  | cons action actions ih =>
      obtain ⟨first, rest⟩ := List.forall_mem_cons.mp orderly
      cases earlier with
      | nil =>
          injection split with head tail
          subst head
          cases action with
          | tick =>
              have last : timer.reloadDelay = 1 :=
                of_decide_eq_true ((raised_tick timer).symm.trans raised)
              refine .inr ⟨by omega, ?_, List.forall_mem_nil _⟩
              rw [last]
              rfl
          | write register value => exact nomatch raised
      | cons head earlier =>
          injection split with head tail
          subst head
          rcases ih rest tail with ⟨before, wrap, waiting, rfl, wraps, due, quiet⟩ |
            ⟨waiting, due, quiet⟩
          · exact .inl ⟨_ :: before, wrap, waiting, rfl, wraps, due, quiet⟩
          · rcases scheduled_after first waiting with ⟨wraps, whole⟩ | ⟨still, scheduled, same⟩
            · exact .inl ⟨[], _, earlier, rfl, wraps, whole ▸ due, quiet⟩
            · refine .inr ⟨scheduled, due.trans same, ?_⟩
              exact List.forall_mem_cons.mpr ⟨still, quiet⟩

theorem Awaits.cons {due : Nat} {head : Change} {later : List Change} (quiet : head.Quiet)
    (early : head.date < due) (awaits : Awaits due later) : Awaits due (head :: later) :=
  List.forall_mem_cons.mpr ⟨⟨quiet, early⟩, awaits⟩

theorem Completes.cons {due : Nat} {head : Change} {later : List Change}
    (quiet : head.Quiet) (early : head.date < due) (completes : Completes due later) :
    Completes due (head :: later) := by
  obtain ⟨waiting, reload, rest, rfl, awaits, reloads⟩ := completes
  exact ⟨head :: waiting, reload, rest, rfl, awaits.cons quiet early, reloads⟩

theorem Abandons.cons {due : Nat} {head : Change} {later : List Change}
    (quiet : head.Quiet) (early : head.date < due) (abandons : Abandons due later) :
    Abandons due (head :: later) := by
  obtain ⟨waiting, cancel, rest, rfl, awaits, cancels, silent⟩ := abandons
  refine ⟨head :: waiting, cancel, rest, rfl, awaits.cons quiet early, cancels, ?_⟩
  refine List.forall_mem_cons.mpr ⟨?_, silent⟩
  intro raised
  exact nomatch quiet.silent.symm.trans raised

/-- A scheduled reload is awaited, takes place or is cancelled, where no wrap comes too
early for another. -/
theorem settles_of_scheduled
    (orderly : ∀ change ∈ timer.changes elapsed actions, change.Orderly) {due : Nat}
    (fresh : ∀ change ∈ timer.changes elapsed actions,
      change.Wraps → due < change.date + 4)
    (scheduled : timer.reloadDelay ≠ 0) (same : elapsed + timer.reloadDelay = due) :
    Awaits due (timer.changes elapsed actions) ∨
      Completes due (timer.changes elapsed actions) ∨
      Abandons due (timer.changes elapsed actions) := by
  induction actions generalizing timer elapsed with
  | nil => exact .inl (List.forall_mem_nil _)
  | cons action actions ih =>
      obtain ⟨first, rest⟩ := List.forall_mem_cons.mp orderly
      obtain ⟨-, late⟩ := List.forall_mem_cons.mp fresh
      have none_before : Awaits due [] := List.forall_mem_nil _
      rcases scheduled_before first scheduled with
        reloads | ⟨cancels, idle⟩ | ⟨quiet, waiting, nearer⟩
      · exact .inr (.inl ⟨[], _, _, rfl, none_before, same ▸ reloads⟩)
      · refine .inr (.inr ⟨[], _, _, rfl, none_before, same ▸ cancels, ?_⟩)
        refine List.forall_mem_cons.mpr ⟨?_, ?_⟩
        · obtain ⟨-, value, writes, -⟩ := cancels
          intro raised
          have written : action = .write .count value := writes
          subst written
          exact nomatch raised
        -- A later request has a wrap of its own, which comes after the first one.
        · intro raise made raised
          obtain ⟨earlier, later, split⟩ := List.append_of_mem made
          rcases caused_or_scheduled rest split raised with
            ⟨before, wrap, waiting, rfl, wraps, date, -⟩ | ⟨waiting, -⟩
          · have member : wrap ∈ (timer.change elapsed action).after.changes
                (timer.change elapsed action).date actions := by
              rw [split]
              simp
            exact date ▸ late wrap member wraps
          · exact absurd idle waiting
      · have early : (timer.change elapsed action).date < due := by omega
        rcases ih rest late waiting (nearer.trans same) with awaits | completes | abandons
        · exact .inl (awaits.cons quiet early)
        · exact .inr (.inl (completes.cons quiet early))
        · exact .inr (.inr (abandons.cons quiet early))

/-- What takes place is not cancelled. -/
theorem not_abandons_of_completes {due : Nat} {later : List Change}
    (completes : Completes due later) : ¬ Abandons due later := by
  rintro ⟨-, -, -, -, -, -, silent⟩
  obtain ⟨waiting, reload, rest, rfl, -, reloads⟩ := completes
  have late := silent reload (by simp) reloads.raises
  exact absurd reloads.punctual (Nat.ne_of_gt late)

/-- A history is faithful when its changes come in order. -/
theorem faithful_of_orderly (idle : timer.reloadDelay = 0)
    (orderly : ∀ change ∈ timer.changes elapsed actions, change.Orderly)
    (apart : (timer.changes elapsed actions).Pairwise GatesApart) :
    Faithful (timer.changes elapsed actions) where
  counts change made := by
    have ordered := orderly change made
    obtain ⟨before, date, action, rfl, -⟩ := exists_of_mem made
    exact ordered.counts
  settles earlier wrap later split wraps := by
    have members : ∀ change ∈ later, change ∈ timer.changes elapsed actions := by
      intro change made
      rw [split]
      simp [made]
    have falls := falls_apart apart
    rw [split, List.pairwise_append] at falls
    obtain ⟨-, fallsAfter, -⟩ := falls
    obtain ⟨first, -⟩ := List.pairwise_cons.mp fallsAfter
    obtain ⟨before, date, action, rest, rfl, -, rfl⟩ := exists_of_split split
    have whole := reloadDelay_of_wraps wraps
    have settled := settles_of_scheduled (fun change made => orderly change (members change made))
      (fun change made again => Nat.add_lt_add_right (first change made wraps.1 again.1) _)
      (whole ▸ (by decide)) (congrArg (_ + ·) whole)
    rcases settled with awaits | completes | abandons
    · exact .inl awaits
    · exact .inr (.inl ⟨completes, not_abandons_of_completes completes⟩)
    · exact .inr (.inr ⟨abandons, fun completes => not_abandons_of_completes completes abandons⟩)
  caused earlier raise later split raised := by
    rcases caused_or_scheduled orderly split raised with caused | ⟨scheduled, -⟩
    · exact caused
    · exact absurd idle scheduled

end Changes

end GameBoy.Timer
