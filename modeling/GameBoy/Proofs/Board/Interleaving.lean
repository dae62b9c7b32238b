import GameBoy.Board
import Mathlib.Data.List.Flatten
import Mathlib.Data.List.Perm.Basic

/-!
# The order of the clocks

Time passes for the timer first and for the screen after it, however long it is. Both
advance by single pulses, a cycle of the timer and a dot of the screen, and neither sees what
the other one does: they only share the interrupt requests, where both do nothing but set
bits. So pulses of the two clocks may change places, and the board after some time is the
board after as many pulses of each, whatever their order.
-/

namespace GameBoy

/-- What advances on the board while time passes. -/
inductive Clock where
  | timer
  | screen
  deriving DecidableEq, Repr

namespace InterruptController

theorem request_comm (controller : InterruptController) (first second : Interrupt) :
    (controller.request first).request second = (controller.request second).request first := by
  simp only [request, UInt8.or_assoc, UInt8.or_comm first.mask]

/-- A request that is made again adds nothing. -/
theorem request_request (controller : InterruptController) (source : Interrupt) :
    (controller.request source).request source = controller.request source := by
  simp only [request, UInt8.or_assoc, UInt8.or_self]

end InterruptController

namespace Board

variable (board : Board)

/-- A single cycle of the timer; its reload requests the interrupt at once. -/
def tickTimer : Board :=
  let (timer, raised) := board.timer.tick
  let interrupts := if raised then board.interrupts.request .timer else board.interrupts
  { board with timer, interrupts }

/-- A single dot of the screen. -/
def tickScreen : Board :=
  let (lcd, signals) := board.lcd.tick
  { board with lcd, interrupts := (receiveAll board.interrupts signals).1 }

/-- A single pulse of a clock. -/
def pulse : Clock → Board
  | .timer => board.tickTimer
  | .screen => board.tickScreen

/-- Some pulses, one after the other. -/
def pulseAll (pulses : List Clock) : Board := pulses.foldl pulse board

theorem pulseAll_append (earlier later : List Clock) :
    board.pulseAll (earlier ++ later) = (board.pulseAll earlier).pulseAll later :=
  List.foldl_append

/-! ## What the clocks share -/

/-- Reports of the screen and another request may change places. -/
theorem receive_request (interrupts : InterruptController) (signal : Lcd.Signal)
    (source : Interrupt) :
    (receive (interrupts.request source) signal).1 =
      (receive interrupts signal).1.request source := by
  cases signal with
  | switchedOff | switchedOn => rfl
  | statEdge | verticalBlank => exact interrupts.request_comm source _

theorem receiveAll_request (interrupts : InterruptController) (signals : List Lcd.Signal)
    (source : Interrupt) :
    (receiveAll (interrupts.request source) signals).1 =
      (receiveAll interrupts signals).1.request source := by
  induction signals generalizing interrupts with
  | nil => rfl
  | cons signal signals ih =>
      simp only [receiveAll]
      rw [receive_request]
      exact ih _

theorem receiveAll_append (interrupts : InterruptController)
    (earlier later : List Lcd.Signal) :
    (receiveAll interrupts (earlier ++ later)).1 =
      (receiveAll (receiveAll interrupts earlier).1 later).1 := by
  induction earlier generalizing interrupts with
  | nil => rfl
  | cons signal earlier ih => exact ih _

/-- A cycle of the timer and a dot of the screen may change places. -/
theorem tickScreen_tickTimer : board.tickTimer.tickScreen = board.tickScreen.tickTimer := by
  cases raised : board.timer.tick.2 with
  | false => simp only [tickTimer, tickScreen, raised, Bool.false_eq_true, if_false]
  | true =>
      simp only [tickTimer, tickScreen, raised, if_true]
      rw [receiveAll_request]

theorem pulse_comm (first second : Clock) :
    (board.pulse first).pulse second = (board.pulse second).pulse first := by
  cases first <;> cases second
  · rfl
  · exact board.tickScreen_tickTimer
  · exact board.tickScreen_tickTimer.symm
  · rfl

/-- The order of pulses does not matter. -/
theorem pulseAll_perm {first second : List Clock} (same : first.Perm second) :
    board.pulseAll first = board.pulseAll second := by
  apply same.foldl_eq'
  intro clock _ other _ board
  exact board.pulse_comm clock other

/-! ## Time as pulses -/

/-- A request of this cycle and those of later cycles are one. -/
theorem request_timer_add (interrupts : InterruptController) (raised : Bool) (requests : Nat) :
    (if raised.toNat + requests = 0 then interrupts else interrupts.request .timer) =
      let now := if raised then interrupts.request .timer else interrupts
      if requests = 0 then now else now.request .timer := by
  cases raised with
  | false => simp only [Bool.toNat_false, Nat.zero_add, Bool.false_eq_true, if_false]
  | true =>
      have some : true.toNat + requests ≠ 0 := Nat.ne_of_gt (Nat.lt_add_right _ Nat.zero_lt_one)
      rw [if_neg some]
      simp only [if_true, InterruptController.request_request, ite_self]

theorem runTimer_succ (cycles : Nat) :
    board.runTimer (cycles + 1) = board.tickTimer.runTimer cycles := by
  have requested := request_timer_add board.interrupts board.timer.tick.2
    (board.timer.tick.1.run cycles).2
  exact congrArg
    (fun interrupts => { board with timer := (board.timer.tick.1.run cycles).1, interrupts })
    requested

theorem runTimer_eq (cycles : Nat) :
    board.runTimer cycles = board.pulseAll (List.replicate cycles .timer) := by
  induction cycles generalizing board with
  | zero => rfl
  | succ cycles ih => exact (board.runTimer_succ cycles).trans (ih board.tickTimer)

theorem runLcd_succ (dots : Nat) :
    (board.runLcd (dots + 1)).1 = (board.tickScreen.runLcd dots).1 := by
  simp only [runLcd, tickScreen, Lcd.run]
  rw [receiveAll_append]

theorem runLcd_eq (dots : Nat) :
    (board.runLcd dots).1 = board.pulseAll (List.replicate dots .screen) := by
  induction dots generalizing board with
  | zero => rfl
  | succ dots ih => exact (board.runLcd_succ dots).trans (ih board.tickScreen)

/-- The pulses of some time, in the order in which the board makes them. -/
def pulsesOf (cycles : Nat) : List Clock :=
  List.replicate cycles .timer ++ List.replicate cycles .screen

theorem elapse_eq (cycles : Nat) :
    (board.elapse cycles).1 = board.pulseAll (pulsesOf cycles) := by
  rw [elapse, runLcd_eq, runTimer_eq, pulsesOf, pulseAll_append]

theorem perm_pulsesOf_iff (pulses : List Clock) (cycles : Nat) :
    pulses.Perm (pulsesOf cycles) ↔
      pulses.count .timer = cycles ∧ pulses.count .screen = cycles := by
  rw [List.perm_iff_count]
  constructor
  · intro same
    constructor
    · simpa [pulsesOf, List.count_replicate] using same .timer
    · simpa [pulsesOf, List.count_replicate] using same .screen
  · rintro ⟨cyclesOf, dotsOf⟩ clock
    cases clock with
    | timer => simpa [pulsesOf, List.count_replicate] using cyclesOf
    | screen => simpa [pulsesOf, List.count_replicate] using dotsOf

/-- Equally many pulses of both clocks are time, in whatever order they come. -/
theorem pulseAll_of_count {pulses : List Clock} {cycles : Nat}
    (cyclesOf : pulses.count .timer = cycles) (dotsOf : pulses.count .screen = cycles) :
    board.pulseAll pulses = (board.elapse cycles).1 := by
  rw [elapse_eq]
  exact board.pulseAll_perm ((perm_pulsesOf_iff pulses cycles).mpr ⟨cyclesOf, dotsOf⟩)

/-- Time that passes in two portions passes at once. -/
theorem fst_elapse_add (early late : Nat) :
    (board.elapse (early + late)).1 = ((board.elapse early).1.elapse late).1 := by
  rw [elapse_eq _ late, elapse_eq _ early, ← pulseAll_append]
  symm
  apply pulseAll_of_count
  · simp [pulsesOf, List.count_replicate]
  · simp [pulsesOf, List.count_replicate]

/-- The two clocks are in lockstep, though time passes for one after the other. For every
board, time that passes in two portions leaves the board that it leaves when it passes at
once; and it leaves the same board, in the timer, the screen, the interrupt requests and
everything else, as that many single cycles of the timer and single dots of the screen in any
order. Two such orders are a cycle before each dot, and a dot before each cycle. -/
theorem elapse_lockstep (board : Board) :
    (∀ early late, (board.elapse (early + late)).1 = ((board.elapse early).1.elapse late).1) ∧
      (∀ cycles (pulses : List Clock),
        pulses.count .timer = cycles → pulses.count .screen = cycles →
          board.pulseAll pulses = (board.elapse cycles).1) ∧
      (∀ cycles, board.pulseAll (List.replicate cycles [.timer, .screen]).flatten =
        (board.elapse cycles).1) ∧
      ∀ cycles, board.pulseAll (List.replicate cycles [.screen, .timer]).flatten =
        (board.elapse cycles).1 := by
  refine ⟨board.fst_elapse_add, ?_, ?_, ?_⟩
  · intro cycles pulses cyclesOf dotsOf
    exact board.pulseAll_of_count cyclesOf dotsOf
  · intro cycles
    apply pulseAll_of_count
    · simp [List.count_flatten]
    · simp [List.count_flatten]
  · intro cycles
    apply pulseAll_of_count
    · simp [List.count_flatten]
    · simp [List.count_flatten]

/-- A board whose timer is about to reload, and whose screen is about to blank. -/
def eventful : Board :=
  { timer := { control := 5, reloadDelay := 3 }
    lcd := { control := 0x80, line := 143, dot := 453 } }

/-- Within three cycles both clocks of that board request their interrupts, and they do so if
the dots come in between. -/
theorem elapse_lockstep_of_eventful :
    let pulses : List Clock := [.screen, .timer, .timer, .screen, .screen, .timer]
    pulses.count .timer = 3 ∧ pulses.count .screen = 3 ∧
      (eventful.pulseAll pulses).interrupts.requested = 0x05 ∧
      eventful.pulseAll pulses = (eventful.elapse 3).1 := by
  obtain ⟨-, interleaved, -⟩ := elapse_lockstep eventful
  refine ⟨by decide, by decide, by decide +kernel, ?_⟩
  exact interleaved 3 _ (by decide) (by decide)

end Board

end GameBoy
