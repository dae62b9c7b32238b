import GameBoy.Lcd.Register

/-!
# The schedule of a frame

Line and dot together say which mode the controller is in. Four rectangles of the
154 lines by 456 dots belong to the four modes, and a dot moves from one to the
next. A dot either only counts, or is the last one of its mode; what happens then
depends on the mode alone. The laws here say what a single dot does, once for all
later uses.
-/

namespace GameBoy.Lcd

/-- The lines and dots that belong to a mode. -/
def Mode.Covers : Mode → (line dot : Nat) → Prop
  | .oamScan, line, dot => line < screenHeight ∧ dot < scanEnd
  | .transfer, line, dot => line < screenHeight ∧ scanEnd ≤ dot ∧ dot < transferEnd
  | .hblank, line, dot => line < screenHeight ∧ transferEnd ≤ dot ∧ dot < lineEnd
  | .vblank, line, dot => screenHeight ≤ line ∧ line < frameEnd ∧ dot < lineEnd

/-- No two modes share a line and a dot. -/
theorem Mode.covers_unique {first second : Mode} {line dot : Nat}
    (covers : first.Covers line dot) (other : second.Covers line dot) : second = first := by
  cases first <;> cases second <;>
    simp only [Covers, screenHeight, scanEnd, transferEnd, lineEnd, frameEnd, reduceCtorEq]
      at covers other ⊢ <;> omega

/-- The dot at which a mode ends. -/
def Mode.finish : Mode → Nat
  | .oamScan => scanEnd
  | .transfer => transferEnd
  | .hblank => lineEnd
  | .vblank => lineEnd

/-- The screen is on, and line and dot belong to the mode. -/
structure Running (lcd : Lcd) : Prop where
  enabled : lcd.enabled = true
  covered : lcd.mode.Covers lcd.line lcd.dot

/-! ## The interrupt line -/

@[simp] theorem fst_updateStat (lcd : Lcd) :
    lcd.updateStat.1 = { lcd with statLine := lcd.statCondition } := rfl

@[simp] theorem fst_enter (lcd : Lcd) (mode : Mode) :
    (lcd.enter mode).1 = { lcd with mode, statLine := { lcd with mode }.statCondition } := rfl

theorem verticalBlank_notMem_updateStat (lcd : Lcd) :
    Signal.verticalBlank ∉ lcd.updateStat.2 := by
  simp only [updateStat]
  split <;> simp

theorem verticalBlank_notMem_enter (lcd : Lcd) (mode : Mode) :
    Signal.verticalBlank ∉ (lcd.enter mode).2 :=
  verticalBlank_notMem_updateStat _

/-! ## A dot -/

/-- What a dot does to a running controller. Six dots of a frame do more than
count: the scan ends, the transfer ends, a line ends in three ways, and so does
the frame. -/
inductive DotResult (lcd : Lcd) : Lcd × List Signal → Prop where
  | counted (early : lcd.dot + 1 < lcd.mode.finish) :
      DotResult lcd ({ lcd with dot := lcd.dot + 1 }, [])
  | scanned (mode : lcd.mode = .oamScan) (last : lcd.dot + 1 = scanEnd)
      (visible : lcd.line < screenHeight) :
      DotResult lcd ({ lcd with dot := lcd.dot + 1 }.scanSprites.enter .transfer)
  | drawn (mode : lcd.mode = .transfer) (last : lcd.dot + 1 = transferEnd)
      (visible : lcd.line < screenHeight) :
      DotResult lcd ({ lcd with dot := lcd.dot + 1 }.drawLine.enter .hblank)
  | nextLine (mode : lcd.mode = .hblank) (last : lcd.dot + 1 = lineEnd)
      (visible : lcd.line + 1 < screenHeight) :
      DotResult lcd ({ lcd with dot := 0, line := lcd.line + 1 }.enter .oamScan)
  | blanked (mode : lcd.mode = .hblank) (last : lcd.dot + 1 = lineEnd)
      (lowest : lcd.line + 1 = screenHeight) :
      DotResult lcd
        (({ lcd with dot := 0, line := lcd.line + 1 }.enter .vblank).1,
          ({ lcd with dot := 0, line := lcd.line + 1 }.enter .vblank).2 ++ [.verticalBlank])
  | nextBlankLine (mode : lcd.mode = .vblank) (last : lcd.dot + 1 = lineEnd)
      (below : screenHeight ≤ lcd.line) (more : lcd.line + 1 < frameEnd) :
      DotResult lcd { lcd with dot := 0, line := lcd.line + 1 }.updateStat
  | nextFrame (mode : lcd.mode = .vblank) (last : lcd.dot + 1 = lineEnd)
      (lowest : lcd.line + 1 = frameEnd) :
      DotResult lcd { lcd with dot := lcd.dot + 1 }.nextFrame

/-- With the screen off nothing moves. -/
theorem tick_of_disabled {lcd : Lcd} (disabled : lcd.enabled = false) :
    lcd.tick = (lcd, []) := by
  simp [tick, disabled]

/-- Where the schedule is kept, a dot has one of the seven results. -/
theorem Running.dotResult {lcd : Lcd} (running : lcd.Running) :
    DotResult lcd lcd.tick := by
  obtain ⟨enabled, covered⟩ := running
  simp only [tick, enabled, if_true]
  -- The mode is matched where it stands, so that the rest of the state stays `lcd`.
  split
  next mode =>
    replace mode : lcd.mode = .oamScan := mode
    simp only [mode, Mode.Covers] at covered
    split
    next last => exact .scanned mode last covered.1
    next more =>
      exact .counted (by simp only [mode, Mode.finish]; omega)
  next mode =>
    replace mode : lcd.mode = .transfer := mode
    simp only [mode, Mode.Covers] at covered
    split
    next last => exact .drawn mode last covered.1
    next more =>
      exact .counted (by simp only [mode, Mode.finish]; omega)
  next mode =>
    replace mode : lcd.mode = .hblank := mode
    simp only [mode, Mode.Covers] at covered
    split
    next last =>
      simp only [Lcd.nextLine]
      split
      next lowest => exact .blanked mode last lowest
      next higher => exact .nextLine mode last (by omega)
    next more =>
      exact .counted (by simp only [mode, Mode.finish]; omega)
  next mode =>
    replace mode : lcd.mode = .vblank := mode
    simp only [mode, Mode.Covers] at covered
    split
    next last =>
      simp only [Lcd.nextBlankLine]
      split
      next lowest => exact .nextFrame mode last lowest
      next higher => exact .nextBlankLine mode last covered.1 (by omega)
    next more =>
      exact .counted (by simp only [mode, Mode.finish]; omega)

/-- The dots of a line follow each other. -/
theorem Running.dot_tick {lcd : Lcd} (running : lcd.Running) :
    lcd.tick.1.dot = (lcd.dot + 1) % lineEnd := by
  have covered := running.covered
  have result := running.dotResult
  generalize lcd.tick = after at result
  cases result with
  | counted early =>
      cases mode : lcd.mode <;>
        simp only [mode, Mode.finish, scanEnd, transferEnd, lineEnd] at early ⊢ <;> omega
  | scanned mode last | drawn mode last =>
      simp only [fst_enter, scanSprites, drawLine, last]
      rfl
  | nextLine mode last | blanked mode last | nextBlankLine mode last
  | nextFrame mode last =>
      simp only [Lcd.nextFrame, fst_enter, fst_updateStat, last]
      rfl

/-- The lines of a frame follow each other, each when the dots of the last are
over. -/
theorem Running.line_tick {lcd : Lcd} (running : lcd.Running) :
    lcd.tick.1.line =
      if lcd.dot + 1 = lineEnd then (lcd.line + 1) % frameEnd else lcd.line := by
  have result := running.dotResult
  generalize lcd.tick = after at result
  cases result with
  | counted early =>
      have different : lcd.dot + 1 ≠ lineEnd := by
        cases mode : lcd.mode <;>
          simp only [mode, Mode.finish, scanEnd, transferEnd, lineEnd] at early ⊢ <;> omega
      rw [if_neg different]
  | scanned mode last | drawn mode last =>
      simp only [fst_enter, scanSprites, drawLine, last]
      rfl
  | nextLine mode last visible | blanked mode last visible =>
      simp only [fst_enter, last, if_true]
      simp only [screenHeight, frameEnd] at visible ⊢
      omega
  | nextBlankLine mode last below more =>
      simp only [fst_updateStat, last, if_true]
      exact (Nat.mod_eq_of_lt more).symm
  | nextFrame mode last lowest =>
      simp only [Lcd.nextFrame, fst_enter, last, if_true, lowest, Nat.mod_self]

/-- A dot leads from one rectangle of the schedule into the same or the next. -/
theorem Running.tick {lcd : Lcd} (running : lcd.Running) : lcd.tick.1.Running := by
  have result := running.dotResult
  obtain ⟨enabled, covered⟩ := running
  generalize lcd.tick = after at result
  cases result with
  | counted early =>
      refine ⟨enabled, ?_⟩
      cases mode : lcd.mode <;>
        simp only [mode, Mode.Covers, Mode.finish] at covered early ⊢ <;> omega
  | scanned mode last visible | drawn mode last visible =>
      refine ⟨enabled, ?_⟩
      simp only [fst_enter, scanSprites, drawLine, last]
      exact ⟨visible, by decide, by decide⟩
  | nextLine mode last visible => exact ⟨enabled, visible, (by decide : 0 < scanEnd)⟩
  | blanked mode last lowest =>
      refine ⟨enabled, ?_⟩
      simp only [fst_enter, lowest]
      exact ⟨by decide, by decide, by decide⟩
  | nextBlankLine mode last below more =>
      refine ⟨enabled, ?_⟩
      simp only [fst_updateStat, mode]
      exact ⟨Nat.le_succ_of_le below, more, by decide⟩
  | nextFrame =>
      exact ⟨enabled, (by decide : 0 < screenHeight), (by decide : 0 < scanEnd)⟩

/-- Dots keep the schedule. -/
theorem Running.run {lcd : Lcd} (running : lcd.Running) (dots : Nat) :
    (lcd.run dots).1.Running := by
  induction dots generalizing lcd with
  | zero => exact running
  | succ dots ih => exact ih running.tick

/-- Dots that pass in two portions pass one after the other. -/
theorem fst_run_add (lcd : Lcd) (early late : Nat) :
    (lcd.run (early + late)).1 = ((lcd.run early).1.run late).1 := by
  induction early generalizing lcd with
  | zero => rw [Nat.zero_add, run]
  | succ early ih =>
      rw [Nat.succ_add]
      exact ih lcd.tick.1

theorem fst_run_succ (lcd : Lcd) (dots : Nat) :
    (lcd.run (dots + 1)).1 = (lcd.run dots).1.tick.1 := by
  rw [fst_run_add]
  rfl

end GameBoy.Lcd
