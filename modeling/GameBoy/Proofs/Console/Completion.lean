import GameBoy.Proofs.Console.Screen
import GameBoy.Proofs.Console.Sound
import GameBoy.Proofs.Lcd.Frames

/-!
# The frames that steps complete

A step first writes and then lets time pass, and a frame can be completed only by the dots
that pass: one at most, because no step takes as long as a frame. A screen that is off
completes none, and one that stays on completes its frame in the step that reaches its end.
-/

namespace GameBoy

open Cpu

namespace Cpu

/-- The dots that pass during an access. -/
def Access.dots : Access → Nat
  | .write _ _ => 0
  | .elapse cycles => cycles

/-- The access does not switch the screen off. -/
def Access.KeepsLit : Access → Prop
  | .write address value => address = 0xFF40 → value.bit 7 = true
  | .elapse _ => True

instance : DecidablePred Access.KeepsLit
  | .write address value => inferInstanceAs (Decidable (address = 0xFF40 → value.bit 7 = true))
  | .elapse _ => inferInstanceAs (Decidable True)

/-- Time passes in whole machine cycles. -/
theorem Footprint.whole {accesses : List Access} (footprint : Footprint accesses) :
    ∀ access ∈ accesses, 4 ∣ access.dots := by
  cases footprint with
  | still => exact List.forall_mem_nil _
  | quiet whole => exact List.forall_mem_singleton.mpr whole
  | storing stores whole =>
      cases stores <;> simpa [Access.dots] using whole
  | stopping => simp [Access.dots]

end Cpu

/-! ## Accesses -/

namespace Board

/-- The frames that are completed during some accesses. -/
def completedFrames (board : Board) : List Access → List Frame
  | [] => []
  | access :: accesses =>
    board.lcd.completedFrames access.dots ++ (board.access access).completedFrames accesses

theorem completedFrames_append (board : Board) (earlier later : List Access) :
    board.completedFrames (earlier ++ later) =
      board.completedFrames earlier ++ (board.accessAll earlier).completedFrames later := by
  induction earlier generalizing board with
  | nil => rfl
  | cons access earlier ih =>
      rw [List.cons_append, completedFrames, completedFrames, ih, List.append_assoc]
      rfl

variable {board : Board}

/-- A write does at most one thing to the controller, and that takes no time. -/
theorem lcd_write (board : Board) (address : Word) (value : Byte) :
    (board.access (.write address value)).lcd = board.lcd ∨
      ∃ action : Lcd.Action, (∀ dots, action ≠ .run dots) ∧
        ((Access.write address value).KeepsLit → action.KeepsOn) ∧
          (board.access (.write address value)).lcd = (board.lcd.perform action).1 := by
  have after := board.lcd_access (.write address value)
  cases found : board.lcdAction? (.write address value) with
  | none =>
      rw [found] at after
      exact .inl after
  | some action =>
      rw [found] at after
      refine .inr ⟨action, board.lcdAction?_ne_run address value found, fun lit => ?_, after⟩
      cases action with
      | run | writeVram | writeOam | transfer => trivial
      | write register written =>
          obtain ⟨place, rfl⟩ := board.address_of_lcdAction? found
          cases register with
          | control => exact lit (UInt16.toNat_inj.mp place)
          | _ => trivial

theorem sameFrame_write (address : Word) (value : Byte) :
    board.lcd.SameFrame (board.access (.write address value)).lcd := by
  rcases board.lcd_write address value with same | ⟨action, instant, -, same⟩
  · rw [same]
    exact ⟨rfl, rfl⟩
  · rw [same]
    exact board.lcd.sameFrame_perform instant

theorem at_write {place : Nat} (here : board.lcd.At place) {address : Word} {value : Byte}
    (lit : (Access.write address value).KeepsLit) :
    (board.access (.write address value)).lcd.At place := by
  rcases board.lcd_write address value with same | ⟨action, instant, keepsOn, same⟩
  · rw [same]
    exact here
  · rw [same]
    have arrived := here.perform (keepsOn lit)
    rwa [Lcd.Action.dots_of_instant instant] at arrived

theorem completedFrames_of_writes {writes : List Access}
    (only : ∀ access ∈ writes, ∃ address value, access = .write address value) :
    board.completedFrames writes = [] := by
  induction writes generalizing board with
  | nil => rfl
  | cons access writes ih =>
      obtain ⟨⟨address, value, rfl⟩, rest⟩ := List.forall_mem_cons.mp only
      exact ih rest

/-- Accesses keep the dots of a line in step with the machine cycles. -/
theorem four_dvd_dot_access (sound : board.lcd.Sound) (aligned : 4 ∣ board.lcd.dot)
    {access : Access} (whole : 4 ∣ access.dots) : 4 ∣ (board.access access).lcd.dot := by
  cases access with
  | elapse cycles =>
      have passing : 4 ∣ (Lcd.Action.run cycles).dots := whole
      exact Lcd.four_dvd_dot_perform sound aligned passing
  | write address value =>
      rcases board.lcd_write address value with same | ⟨action, instant, -, same⟩
      · rw [same]
        exact aligned
      · rw [same]
        apply Lcd.four_dvd_dot_perform sound aligned
        rw [Lcd.Action.dots_of_instant instant]
        exact Nat.dvd_zero 4

end Board

/-! ## Steps -/

namespace Console

variable {console : Console}

/-- The frames that a step completes. -/
def completed (console : Console) : List Frame :=
  (console.board.acknowledged console.activity).completedFrames (console.moveAccesses .step)

/-- The cycles that a step reports: none if it fails. -/
def cycles (console : Console) : Nat :=
  match console.step.result with
  | .ok cycles => cycles
  | .error _ => 0

/-- No write of the step, be it an instruction's or that of an entry into a handler, switches
the screen off. -/
def KeepsLit (console : Console) : Prop :=
  ∀ access ∈ console.moveAccesses .step, access.KeepsLit

instance (console : Console) : Decidable console.KeepsLit :=
  inferInstanceAs (Decidable (∀ access ∈ console.moveAccesses .step, access.KeepsLit))

theorem ran_of_cycles (some : console.cycles ≠ 0) :
    ∃ cycles, console.step.result = .ok cycles := by
  unfold Console.cycles at some
  split at some
  next cycles ran => exact ⟨cycles, ran⟩
  next => exact absurd rfl some

theorem cycles_of_ran {cycles : Nat} (ran : console.step.result = .ok cycles) :
    console.cycles = cycles := by
  rw [Console.cycles, ran]

/-- What a step that takes time does to the controller: its writes, and then its dots. -/
structure Passes (console : Console) (cycles : Nat) (middle : Lcd) : Prop where
  whole : 4 ∣ cycles
  short : cycles ≤ 24
  completed : console.completed = middle.completedFrames cycles
  after : console.step.console.board.lcd = (middle.run cycles).1
  same : console.board.lcd.SameFrame middle
  sound : middle.Sound
  lit : ∀ {place : Nat}, console.board.lcd.At place → console.KeepsLit → middle.At place

theorem lcd_acknowledged (board : Board) (activity : Activity) :
    (board.acknowledged activity).lcd = board.lcd := by
  cases activity <;> rfl

section

variable {writes : List Access}
  (only : ∀ access ∈ writes, ∃ address value, access = .write address value)
include only

theorem sameFrame_written : console.board.lcd.SameFrame (console.written writes).lcd := by
  apply Board.accessAll_keeps (fun board => console.board.lcd.SameFrame board.lcd)
  · intro access member before same
    obtain ⟨address, value, rfl⟩ := only access member
    exact same.trans (Board.sameFrame_write address value)
  · rw [lcd_acknowledged]
    exact ⟨rfl, rfl⟩

theorem sound_written (sound : console.board.lcd.Sound) :
    (console.written writes).lcd.Sound := by
  apply Board.accessAll_keeps (fun board => board.lcd.Sound)
  · intro access member before sound
    obtain ⟨address, value, rfl⟩ := only access member
    exact Board.sound_write sound address value
  · rw [lcd_acknowledged]
    exact sound

theorem at_written {place : Nat} (here : console.board.lcd.At place)
    (lit : ∀ access ∈ writes, access.KeepsLit) : (console.written writes).lcd.At place := by
  apply Board.accessAll_keeps (fun board => board.lcd.At place)
  · intro access member before here
    obtain ⟨address, value, rfl⟩ := only access member
    exact Board.at_write here (lit _ member)
  · rw [lcd_acknowledged]
    exact here

end

/-- The dots of a step begin at the controller behind its writes. -/
theorem exists_passes (sound : console.board.lcd.Sound) {cycles : Nat}
    (ran : console.step.result = .ok cycles) (running : console.cpu.stopped = false) :
    ∃ middle, console.Passes cycles middle := by
  obtain ⟨⟨whole, short⟩, writes, split, only⟩ := moveAccesses_of_ran ran running
  have completed : console.completed = (console.written writes).lcd.completedFrames cycles := by
    rw [Console.completed, split, Board.completedFrames_append,
      Board.completedFrames_of_writes only]
    exact List.append_nil _
  refine ⟨_, whole, short, completed, congrArg Board.lcd (board_step_of_split split),
    sameFrame_written only, sound_written only sound, fun here lit => ?_⟩
  apply at_written only here
  intro access member
  apply lit
  rw [split]
  exact List.mem_append_left _ member

/-- A step that fails, or that is stopped, leaves the controller alone. -/
theorem lcd_of_still (still : console.moveAccesses .step = []) :
    console.step.console.board.lcd = console.board.lcd ∧ console.completed = [] := by
  constructor
  · rw [board_step_of_still still]
  · rw [completed, still]
    rfl

/-- A step completes one frame at most, and then the screen is on, the frame is shown and
announced. -/
inductive FrameResult (before : Lcd) : List Frame → Lcd → Prop where
  | none {after : Lcd} (same : before.SameFrame after) : FrameResult before [] after
  | one {after : Lcd} (ready : after.frameReady = true) (lit : after.enabled = true) :
      FrameResult before [after.shown] after

theorem Passes.frameResult {cycles : Nat} {middle : Lcd} (passes : console.Passes cycles middle) :
    FrameResult console.board.lcd console.completed console.step.console.board.lcd := by
  have short := passes.short
  rw [passes.completed, passes.after]
  cases enabled : middle.enabled with
  | false =>
      rw [Lcd.completedFrames_of_disabled enabled, Lcd.run_of_disabled enabled]
      exact .none passes.same
  | true =>
      have here := (passes.sound.running enabled).at
      rcases Nat.lt_or_ge ((middle.line * Lcd.lineEnd + middle.dot) % Lcd.frameDots + cycles)
        Lcd.frameDots with early | late
      · obtain ⟨silent, same⟩ := here.completedFrames_of_early early
        rw [silent]
        exact .none (passes.same.trans same)
      · obtain ⟨one, ready⟩ := here.completedFrames_of_late late
          (Nat.lt_of_le_of_lt short (by decide))
        rw [one]
        exact .one ready ((passes.sound.enabled_run cycles).trans enabled)

/-- A step before a screen that stays on: it completes the frame if it comes to its end, and
else the screen is so much further. -/
theorem Passes.of_lit {cycles place : Nat} {middle : Lcd} (passes : console.Passes cycles middle)
    (here : console.board.lcd.At place) (lit : console.KeepsLit) :
    (place % Lcd.frameDots + cycles < Lcd.frameDots ∧
        console.board.lcd.SameFrame console.step.console.board.lcd ∧
        console.step.console.board.lcd.At (place + cycles)) ∨
      (Lcd.frameDots ≤ place % Lcd.frameDots + cycles ∧
        console.completed = [console.step.console.frame] ∧
        console.step.console.board.lcd.frameReady = true) := by
  have arrived := passes.lit here lit
  rw [passes.completed, frame, passes.after]
  rcases Nat.lt_or_ge (place % Lcd.frameDots + cycles) Lcd.frameDots with early | late
  · obtain ⟨-, same⟩ := arrived.completedFrames_of_early early
    exact .inl ⟨early, passes.same.trans same, arrived.run cycles⟩
  · have short : cycles < Lcd.frameDots := Nat.lt_of_le_of_lt passes.short (by decide)
    exact .inr ⟨late, arrived.completedFrames_of_late late short⟩

theorem frameResult (sound : console.board.lcd.Sound) :
    FrameResult console.board.lcd console.completed console.step.console.board.lcd := by
  cases result : console.step.result with
  | error fault =>
      obtain ⟨same, silent⟩ := lcd_of_still (moveAccesses_of_fault result)
      rw [same, silent]
      exact .none ⟨rfl, rfl⟩
  | ok cycles =>
      cases stopped : console.cpu.stopped with
      | true =>
          obtain ⟨same, silent⟩ := lcd_of_still (moveAccesses_of_stopped stopped)
          rw [same, silent]
          exact .none ⟨rfl, rfl⟩
      | false =>
          obtain ⟨middle, passes⟩ := exists_passes sound result stopped
          exact passes.frameResult

/-- A step that ends with the screen off completes no frame. -/
theorem completed_of_dark (sound : console.board.lcd.Sound)
    (dark : console.step.console.board.lcd.enabled = false) :
    console.completed = [] ∧ console.board.lcd.SameFrame console.step.console.board.lcd := by
  have outcome := frameResult sound
  generalize console.completed = frames at outcome ⊢
  cases outcome with
  | none same => exact ⟨rfl, same⟩
  | one _ lit => exact nomatch dark.symm.trans lit

end Console

end GameBoy
