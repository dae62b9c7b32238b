import GameBoy.Proofs.Lcd.Sound
import GameBoy.Proofs.Lcd.Timeline

/-!
# Completed frames

A frame is complete at the dot that announces it, and is shown from then on. A dark screen
completes none. A lit one completes a frame at every multiple of 70224 dots, so in fewer
dots than that it completes at most one, and whether it does follows from its place in the
schedule. What is written leaves the frame shown alone.
-/

namespace GameBoy.Lcd

/-- The next dot completes a frame: it announces one although none was announced before. -/
def completesFrame (lcd : Lcd) : Bool := lcd.clearReady.tick.1.frameReady

/-- The frames that are completed during a number of dots, each as it is shown then. -/
def completedFrames (lcd : Lcd) : Nat → List Frame
  | 0 => []
  | dots + 1 =>
    (if lcd.completesFrame then [lcd.tick.1.shown] else []) ++ lcd.tick.1.completedFrames dots

/-- No frame was completed between two states. -/
structure SameFrame (before after : Lcd) : Prop where
  shown : after.shown = before.shown
  frameReady : after.frameReady = before.frameReady

theorem SameFrame.trans {first second third : Lcd} (early : SameFrame first second)
    (late : SameFrame second third) : SameFrame first third :=
  ⟨late.shown.trans early.shown, late.frameReady.trans early.frameReady⟩

/-! ## The dark screen -/

variable {lcd : Lcd}

theorem run_of_disabled (disabled : lcd.enabled = false) (dots : Nat) :
    lcd.run dots = (lcd, []) := by
  induction dots with
  | zero => rfl
  | succ dots ih => simp only [run, tick_of_disabled disabled, ih, List.append_nil]

theorem completesFrame_of_disabled (disabled : lcd.enabled = false) :
    lcd.completesFrame = false := by
  have dark : lcd.clearReady.enabled = false := disabled
  rw [completesFrame, tick_of_disabled dark]
  rfl

theorem completedFrames_of_disabled (disabled : lcd.enabled = false) (dots : Nat) :
    lcd.completedFrames dots = [] := by
  induction dots with
  | zero => rfl
  | succ dots ih =>
      rw [completedFrames, completesFrame_of_disabled disabled, tick_of_disabled disabled, ih]
      rfl

/-! ## The lit screen -/

/-- Every lit screen stands where some number of dots brings it. -/
theorem Running.at (running : lcd.Running) : lcd.At (lcd.line * lineEnd + lcd.dot) := by
  have inside : lcd.line < frameEnd ∧ lcd.dot < lineEnd := by
    have covered := running.covered
    cases mode : lcd.mode <;>
      simp only [mode, Mode.Covers, screenHeight, scanEnd, transferEnd, lineEnd, frameEnd]
        at covered ⊢ <;> omega
  obtain ⟨line, dot⟩ := inside
  refine ⟨running, ?_, ?_⟩
  · rw [Nat.mul_comm, Nat.mul_add_div (by decide), Nat.div_eq_of_lt dot, Nat.add_zero,
      Nat.mod_eq_of_lt line]
  · rw [Nat.mul_comm, Nat.mul_add_mod, Nat.mod_eq_of_lt dot]

theorem At.completesFrame_iff {elapsed : Nat} (here : lcd.At elapsed) :
    lcd.completesFrame = true ↔ frameDots ∣ elapsed + 1 := by
  have cleared : lcd.clearReady.At elapsed :=
    ⟨⟨here.running.enabled, here.running.covered⟩, here.line, here.dot⟩
  have exchange := cleared.running.shown_tick
  rw [here.frame_iff]
  split at exchange
  next last => exact iff_of_true exchange.2.2 last
  next early =>
    refine iff_of_false ?_ early
    rw [completesFrame, exchange.2]
    exact Bool.false_ne_true

theorem At.sameFrame_tick {elapsed : Nat} (here : lcd.At elapsed)
    (early : ¬ frameDots ∣ elapsed + 1) : SameFrame lcd lcd.tick.1 := by
  have exchange := here.running.shown_tick
  rw [here.frame_iff] at early
  rw [if_neg early] at exchange
  exact ⟨exchange.1, exchange.2⟩

/-- Before the end of a frame none is completed. -/
theorem At.completedFrames_of_early {elapsed : Nat} (here : lcd.At elapsed) {dots : Nat}
    (early : elapsed % frameDots + dots < frameDots) :
    lcd.completedFrames dots = [] ∧ SameFrame lcd (lcd.run dots).1 := by
  induction dots generalizing lcd elapsed with
  | zero => exact ⟨rfl, rfl, rfl⟩
  | succ dots ih =>
      have unfinished : ¬ frameDots ∣ elapsed + 1 := by
        simp only [frameDots, frameEnd, lineEnd] at early ⊢
        omega
      have incomplete : lcd.completesFrame = false :=
        Bool.eq_false_iff.mpr fun completes => unfinished (here.completesFrame_iff.mp completes)
      have later : (elapsed + 1) % frameDots + dots < frameDots := by
        simp only [frameDots, frameEnd, lineEnd] at early unfinished ⊢
        omega
      obtain ⟨none, same⟩ := ih here.tick later
      constructor
      · rw [completedFrames, incomplete, none]
        rfl
      · exact (here.sameFrame_tick unfinished).trans same

/-- At the end of a frame it is completed and announced. -/
theorem At.completedFrames_of_late {elapsed : Nat} (here : lcd.At elapsed) {dots : Nat}
    (late : frameDots ≤ elapsed % frameDots + dots) (short : dots < frameDots) :
    lcd.completedFrames dots = [(lcd.run dots).1.shown] ∧ (lcd.run dots).1.frameReady = true := by
  induction dots generalizing lcd elapsed with
  | zero =>
      have inside : elapsed % frameDots < frameDots := Nat.mod_lt _ (by decide)
      omega
  | succ dots ih =>
      by_cases finished : frameDots ∣ elapsed + 1
      · have exchange := here.running.shown_tick
        rw [if_pos (here.frame_iff.mp finished)] at exchange
        have later : (elapsed + 1) % frameDots + dots < frameDots := by
          rw [Nat.mod_eq_zero_of_dvd finished]
          omega
        obtain ⟨none, same⟩ := here.tick.completedFrames_of_early later
        constructor
        · rw [completedFrames, here.completesFrame_iff.mpr finished, none, if_pos rfl,
            List.append_nil]
          exact congrArg (fun frame => [frame]) same.shown.symm
        · exact same.frameReady.trans exchange.2.2
      · have incomplete : lcd.completesFrame = false :=
          Bool.eq_false_iff.mpr fun completes => finished (here.completesFrame_iff.mp completes)
        have later : frameDots ≤ (elapsed + 1) % frameDots + dots := by
          simp only [frameDots, frameEnd, lineEnd] at late finished ⊢
          omega
        obtain ⟨one, ready⟩ := ih here.tick later (Nat.lt_of_succ_lt short)
        refine ⟨?_, ready⟩
        rw [completedFrames, incomplete, one]
        rfl

/-- Dots switch the screen neither on nor off. -/
theorem Sound.enabled_run (sound : lcd.Sound) (dots : Nat) :
    (lcd.run dots).1.enabled = lcd.enabled := by
  cases enabled : lcd.enabled with
  | false =>
      rw [run_of_disabled enabled]
      exact enabled
  | true => exact ((sound.running enabled).run dots).enabled

/-! ## Writes -/

/-- What is written leaves both frames alone. -/
theorem frames_perform (lcd : Lcd) {action : Action} (instant : ∀ dots, action ≠ .run dots) :
    SameFrame lcd (lcd.perform action).1 ∧ (lcd.perform action).1.drawn = lcd.drawn := by
  cases action with
  | run dots => exact absurd rfl (instant dots)
  | write register value =>
      cases register with
      | control =>
          simp only [perform, write, writeControl]
          split
          · exact ⟨⟨rfl, rfl⟩, rfl⟩
          · split <;> exact ⟨⟨rfl, rfl⟩, rfl⟩
      | _ => exact ⟨⟨rfl, rfl⟩, rfl⟩
  | writeVram offset value =>
      simp only [perform, writeVram]
      split <;> exact ⟨⟨rfl, rfl⟩, rfl⟩
  | writeOam offset value =>
      simp only [perform, writeOam]
      split <;> exact ⟨⟨rfl, rfl⟩, rfl⟩
  | transfer oam => exact ⟨⟨rfl, rfl⟩, rfl⟩

theorem sameFrame_perform (lcd : Lcd) {action : Action} (instant : ∀ dots, action ≠ .run dots) :
    SameFrame lcd (lcd.perform action).1 :=
  (lcd.frames_perform instant).1

/-- The place in a line is a whole number of machine cycles, if time passes in them. -/
theorem four_dvd_dot_perform (sound : lcd.Sound) (aligned : 4 ∣ lcd.dot) {action : Action}
    (whole : 4 ∣ action.dots) : 4 ∣ (lcd.perform action).1.dot := by
  cases action with
  | run dots =>
      cases enabled : lcd.enabled with
      | false =>
          rw [perform, run_of_disabled enabled]
          exact aligned
      | true =>
          have here := (sound.running enabled).at.run dots
          change 4 ∣ (lcd.run dots).1.dot
          change 4 ∣ dots at whole
          rw [here.dot]
          simp only [lineEnd]
          omega
  | write register value =>
      cases register with
      | control =>
          simp only [perform, write, writeControl]
          split
          · exact Nat.dvd_zero 4
          · split
            · exact Nat.dvd_zero 4
            · exact aligned
      | _ => exact aligned
  | writeVram offset value =>
      simp only [perform, writeVram]
      split <;> exact aligned
  | writeOam offset value =>
      simp only [perform, writeOam]
      split <;> exact aligned
  | transfer oam => exact aligned

end GameBoy.Lcd
