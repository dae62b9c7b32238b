import GameBoy.Proofs.Console.Buttons
import GameBoy.Proofs.Console.Rendering
import GameBoy.Proofs.Console.Run

/-!
# A stopped console

A stopped processor waits until a selected button line is low. Before that a step reads the
lines and does nothing else: no time passes and no interrupt is served, however many are
pending. The host may press and release buttons meanwhile, which touches the joypad and its
request alone. A frame that is asked for cannot be completed then; the loop still ends,
because the steps report cycles that do not pass.
-/

namespace GameBoy

open Cpu

/-- Whether a move is one of the host's on a button. -/
def Move.isButton : Move → Bool
  | .setButton _ _ => true
  | _ => false

namespace Console

variable {console : Console}

/-- No selected button line is low. -/
def LinesHigh (console : Console) : Prop := console.peek 0xFF00 &&& 0x0F = 0x0F

theorem peek_joypad (console : Console) : console.peek 0xFF00 = console.board.joypad.read :=
  console.board.read_joypad

theorem LinesHigh.clearReady (high : console.LinesHigh) : console.clearReady.LinesHigh := by
  rw [LinesHigh, peek_joypad] at high ⊢
  exact high

/-- The processor is stopped without a fault. -/
structure Stopped (console : Console) : Prop where
  stopped : console.cpu.stopped = true
  alive : console.cpu.fault = none

/-! ## Steps -/

theorem Stopped.core_step (stopped : console.Stopped) :
    console.core.step = (.ok 4, console.core.awaitButton) :=
  Core.step_of_stopped stopped.alive stopped.stopped

theorem Stopped.result_step (stopped : console.Stopped) : console.step.result = .ok 4 :=
  congrArg Prod.fst stopped.core_step

theorem Stopped.console_step (stopped : console.Stopped) :
    console.step.console =
      { console with
        cpu := console.core.awaitButton.cpu
        board := console.core.awaitButton.bus } := by
  have core : console.core.step.2 = console.core.awaitButton := congrArg Prod.snd stopped.core_step
  rw [← core]
  rfl

/-- While the lines are high, a step changes nothing at all. -/
theorem Stopped.step_of_high (stopped : console.Stopped) (high : console.LinesHigh) :
    console.step.console = console := by
  have waits : console.core.awaitButton = console.core :=
    if_neg (ne_true_of_eq_false (bne_eq_false_iff_eq.mpr high))
  rw [stopped.console_step, waits]
  rfl

/-- With a line low, a step ends the stop and changes nothing else. -/
theorem Stopped.step_of_low (stopped : console.Stopped) (low : ¬ console.LinesHigh) :
    console.step.console = { console with cpu := { console.cpu with stopped := false } } := by
  have wakes : console.core.awaitButton =
      (console.core.report (.resumed console.cpu.registers.pc)).modifyCpu
        fun cpu => { cpu with stopped := false } :=
    if_pos (bne_iff_ne.mpr low)
  rw [stopped.console_step, wakes]
  rfl

/-! ## Steps between the host's moves -/

/-- Two consoles differ at most in the joypad and in the interrupts that are requested. -/
def SameButInput (console other : Console) : Prop :=
  ∃ joypad requested, other =
    { console with
      board :=
        { console.board with
          joypad, interrupts := { console.board.interrupts with requested } } }

theorem sameButInput_setButton (console : Console) (button : Button) (pressed : Bool) :
    console.SameButInput (console.setButton button pressed) := by
  refine ⟨(console.board.joypad.setButton button pressed).1,
    (console.setButton button pressed).board.interrupts.requested, ?_⟩
  simp only [setButton, Board.setButton]
  split <;> rfl

theorem SameButInput.trans {first second third : Console} (left : first.SameButInput second)
    (right : second.SameButInput third) : first.SameButInput third := by
  obtain ⟨_, _, rfl⟩ := left
  obtain ⟨joypad, requested, rfl⟩ := right
  exact ⟨joypad, requested, rfl⟩

theorem Stopped.of_sameButInput {other : Console} (stopped : console.Stopped)
    (same : console.SameButInput other) : other.Stopped := by
  obtain ⟨_, _, rfl⟩ := same
  exact ⟨stopped.stopped, stopped.alive⟩

/-- While the lines are high at every step, the steps of a run leave no trace, and the moves on
buttons touch the input alone. -/
theorem Stopped.moveAll (stopped : console.Stopped) {moves : List Move}
    (only : ∀ move ∈ moves, move = .step ∨ move.isButton = true)
    (high : ∀ earlier later, moves = earlier ++ .step :: later →
      (console.moveAll earlier).LinesHigh) :
    console.moveAll moves = console.moveAll (moves.filter Move.isButton) ∧
      console.SameButInput (console.moveAll moves) := by
  induction moves generalizing console with
  | nil => exact ⟨rfl, _, _, rfl⟩
  | cons move moves ih =>
      obtain ⟨here, rest⟩ := List.forall_mem_cons.mp only
      have highLater : ∀ earlier later, moves = earlier ++ .step :: later →
          ((console.move move).moveAll earlier).LinesHigh := by
        intro earlier later split
        exact high (move :: earlier) later (congrArg _ split)
      cases move with
      | step =>
          have same : console.move .step = console := stopped.step_of_high (high [] moves rfl)
          rw [same] at highLater
          rw [Console.moveAll, same]
          exact ih stopped rest highLater
      | setButton button pressed =>
          have touched := console.sameButInput_setButton button pressed
          obtain ⟨steps, input⟩ := ih (stopped.of_sameButInput touched) rest highLater
          exact ⟨steps, touched.trans input⟩
      | loadRam | noticeFrame => exact absurd here (by simp [Move.isButton])

/-! ## Frames -/

/-- A loop whose steps change nothing and cost four cycles each goes on until the cycles are
used up. -/
theorem rendering_of_still {budget elapsed limit : Nat} (ran : console.step.result = .ok 4)
    (still : console.step.console = console) (unready : console.board.lcd.frameReady = false)
    (used : ∀ spent, Exhausted budget spent console.board.lcd ↔ limit ≤ spent) :
    Rendering budget console elapsed
      (List.replicate (max 1 ((limit - elapsed + 3) / 4)) console) (.ok ()) console := by
  have later : console.step.console.board.lcd.frameReady = false := still.symm ▸ unready
  by_cases last : limit ≤ elapsed + 4
  · have one : max 1 ((limit - elapsed + 3) / 4) = 1 := by omega
    have ends : Exhausted budget (elapsed + 4) console.step.console.board.lcd := by
      rw [still]
      exact (used (elapsed + 4)).mpr last
    have rendering := Rendering.exhausted ran later ends
    rw [still] at rendering
    rw [one]
    exact rendering
  · have more : max 1 ((limit - elapsed + 3) / 4) =
        max 1 ((limit - (elapsed + 4) + 3) / 4) + 1 := by omega
    have left : ¬ Exhausted budget (elapsed + 4) console.step.console.board.lcd := by
      rw [still]
      exact fun ends => last ((used (elapsed + 4)).mp ends)
    rw [more, List.replicate_succ]
    refine .goesOn ran later left ?_
    rw [still]
    exact rendering_of_still ran still unready used
termination_by limit - elapsed

/-- A stopped processor whose lines are high lets no frame be completed: the loop ends when the
steps have reported the budget, or twice the budget while the screen is lit. -/
theorem Stopped.rendering (stopped : console.Stopped) (high : console.LinesHigh) :
    let limit :=
      if console.board.lcd.enabled then giveUp console.budget else console.budget
    Rendering console.budget console.clearReady 0
      (List.replicate (max 1 ((limit + 3) / 4)) console.clearReady) (.ok ())
      console.clearReady := by
  intro limit
  have waits : console.clearReady.Stopped := ⟨stopped.stopped, stopped.alive⟩
  have counted : console.budget ≤ countLimit :=
    Nat.le_of_lt_succ console.config.frameBudget.toNat_lt
  have used (spent : Nat) :
      Exhausted console.budget spent console.clearReady.board.lcd ↔ limit ≤ spent := by
    have same : console.clearReady.board.lcd.enabled = console.board.lcd.enabled := rfl
    rw [Exhausted, same]
    cases lit : console.board.lcd.enabled with
    | true => simp [limit, lit]
    | false =>
        -- Giving up comes after the budget, so the budget alone decides.
        have late := Rendering.le_giveUp counted
        have alone : limit = console.budget := by simp [limit, lit]
        rw [alone]
        constructor
        · exact fun ends => ends.elim And.left late.trans
        · exact fun spends => .inl ⟨spends, rfl⟩
  exact rendering_of_still waits.result_step (waits.step_of_high high.clearReady) rfl used

/-- A stopped console is frozen. For every console whose processor is stopped without a fault,
and every run of steps and moves on buttons at whose steps no selected line is low: the steps
leave no trace in the console, and the moves on buttons touch nothing but the joypad and the
requested interrupts. Behind such a run, a step reports four cycles; it changes nothing while
the lines are high, and with a line low it ends the stop and changes nothing else. While the
lines are high, asking for a frame succeeds, returns the frame shown before, and takes as many
steps as there are machine cycles in the budget, or in twice the budget, as far as cycles are
counted, if the screen is on, but one at least. -/
theorem stop_freezes (start : Console) (stopped : start.cpu.stopped = true)
    (alive : start.cpu.fault = none) (moves : List Move)
    (only : ∀ move ∈ moves, move = .step ∨ ∃ button pressed, move = .setButton button pressed)
    (high : ∀ earlier later, moves = earlier ++ .step :: later →
      (start.moveAll earlier).peek 0xFF00 &&& 0x0F = 0x0F) :
    let here := start.moveAll moves
    let budget := here.config.frameBudget.toNat
    here = start.moveAll (moves.filter Move.isButton) ∧
      (∃ joypad requested, here =
        { start with
          board :=
            { start.board with
              joypad, interrupts := { start.board.interrupts with requested } } }) ∧
      here.step.result = .ok 4 ∧
      (here.peek 0xFF00 &&& 0x0F ≠ 0x0F →
        here.step.console = { here with cpu := { here.cpu with stopped := false } }) ∧
      (here.peek 0xFF00 &&& 0x0F = 0x0F →
        here.step.console = here ∧ here.renderFrame.result = .ok () ∧
          here.renderFrame.console.frame = here.frame ∧
          ∃ steps, Rendering budget here.clearReady 0 steps (.ok ()) here.renderFrame.console ∧
            steps.length =
              if here.board.lcd.enabled then max 1 ((min (2 * budget) (2 ^ 32 - 1) + 3) / 4)
              else max 1 ((budget + 3) / 4)) := by
  intro here budget
  have waits : start.Stopped := ⟨stopped, alive⟩
  have button : ∀ move ∈ moves, move = .step ∨ move.isButton = true := by
    intro move member
    refine (only move member).imp_right ?_
    rintro ⟨button, pressed, rfl⟩
    rfl
  obtain ⟨steps, input⟩ := waits.moveAll button high
  have asleep : here.Stopped := waits.of_sameButInput input
  refine ⟨steps, input, asleep.result_step, asleep.step_of_low, fun quiet => ?_⟩
  obtain ⟨made, rendered⟩ := here.exists_rendering_renderFrame
  obtain ⟨same, result, final⟩ := (asleep.rendering quiet).unique rendered
  have shown : here.renderFrame.console.frame = here.frame := by
    rw [final]
    rfl
  refine ⟨asleep.step_of_high quiet, result, shown, made, result ▸ rendered, ?_⟩
  rw [same, List.length_replicate]
  split <;> rfl

/-- A program that selects the actions, enables the interrupt of the joypad, permits
interrupts and stops. -/
def dormant : List Operation :=
  .loadCartridge (Cartridge.shortestImage [(0x100, 0x3E), (0x101, 0x10), (0x102, 0xE0),
    (0x104, 0xE0), (0x105, 0xFF), (0x106, 0xFB), (0x108, 0x10)]) :: List.replicate 6 .step

/-- A direction that is pressed while that program is stopped requests an interrupt, which is
enabled and permitted and still not served. Twice the budget cannot be counted here, so a frame
takes a quarter of the cycles that can. -/
theorem stop_freezes_of_dormant :
    let start := after { ramFill := .zeros, frameBudget := 4000000000 } dormant
    let here := start.moveAll [.step, .setButton .up true, .step]
    start.cpu.stopped = true ∧ start.cpu.enabled = true ∧
      here.board.interrupts.pending = some .joypad ∧ here.step.result = .ok 4 ∧
      here.step.console = here ∧
      ∃ steps, Rendering 4000000000 here.clearReady 0 steps (.ok ()) here.renderFrame.console ∧
        steps.length = 1073741824 := by
  intro start
  have cpu : start.cpu.stopped = true ∧ start.cpu.fault = none ∧ start.cpu.enabled = true := by
    decide +kernel
  have lines : start.peek 0xFF00 &&& 0x0F = 0x0F ∧
      (start.moveAll [.step, .setButton .up true]).peek 0xFF00 &&& 0x0F = 0x0F := by
    decide +kernel
  have board : (start.moveAll [.step, .setButton .up true, .step]).peek 0xFF00 &&& 0x0F = 0x0F ∧
      (start.moveAll [.step, .setButton .up true, .step]).board.interrupts.pending =
        some .joypad ∧
      (start.moveAll [.step, .setButton .up true, .step]).board.lcd.enabled = true ∧
      (start.moveAll [.step, .setButton .up true, .step]).config.frameBudget = 4000000000 := by
    decide +kernel
  obtain ⟨stopped, alive, enabled⟩ := cpu
  obtain ⟨first, second⟩ := lines
  have only : ∀ move ∈ [Move.step, .setButton .up true, .step],
      move = .step ∨ ∃ button pressed, move = .setButton button pressed := by
    simp
  have high : ∀ earlier later,
      [Move.step, .setButton .up true, .step] = earlier ++ .step :: later →
        (start.moveAll earlier).peek 0xFF00 &&& 0x0F = 0x0F := by
    intro earlier later split
    rcases earlier with _ | ⟨_, _ | ⟨_, _ | ⟨_, earlier⟩⟩⟩
    · exact first
    · cases split
    · cases split
      exact second
    · simp at split
  obtain ⟨-, -, ran, -, frozen⟩ := stop_freezes start stopped alive _ only high
  generalize start.moveAll [.step, .setButton .up true, .step] = here at board ran frozen ⊢
  obtain ⟨last, pending, lit, budget⟩ := board
  obtain ⟨still, -, -, steps, rendering, length⟩ := frozen last
  rw [budget] at rendering length
  rw [if_pos lit] at length
  exact ⟨stopped, enabled, pending, ran, still, steps, rendering, length⟩

end Console

end GameBoy
