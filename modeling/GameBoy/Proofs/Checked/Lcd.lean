import GameBoy.Proofs.Checked.Line
import GameBoy.Proofs.Lcd.Sound

/-!
# The controller with checked operations

The dot counter has sixteen bits and the line counter eight, and both are counted
up. The sprite table is scanned with signed numbers of sixteen bits. In a state
that can occur neither counter is near its end, and the controller whose steps are
checked does what the controller does.
-/

namespace GameBoy.Lcd

open Checked

variable (lcd : Lcd)

/-- Whether a sprite has a row on the current line. -/
def checkedReaches (tall : Bool) (index : Fin spriteCount) : Option Bool := do
  let sprite ← lcd.checkedSprite index
  let top ← signed? 16 (sprite.y.toNat - 16)
  if top ≤ lcd.line then do
    let bottom ← signed? 16 (top + Sprite.height tall)
    pure (decide (lcd.line < bottom))
  else pure false

/-- Find the sprites on the current line. -/
def checkedScanSprites : Option Lcd := do
  let found ← filter? (lcd.checkedReaches lcd.spritesTall) (List.finRange spriteCount)
  pure { lcd with
    lineSprites := found.take spritesPerLine
    lineSpritesTall := lcd.spritesTall }

/-- Begin the next line. -/
def checkedNextLine : Option (Lcd × List Signal) := do
  let line ← sum? 8 lcd.line 1
  let lcd := { lcd with dot := 0, line }
  if lcd.line = screenHeight then
    let (lcd, signals) := lcd.enter .vblank
    pure (lcd, signals ++ [.verticalBlank])
  else pure (lcd.enter .oamScan)

/-- Begin the next line of the vertical blank, or the next frame. -/
def checkedNextBlankLine : Option (Lcd × List Signal) := do
  let line ← sum? 8 lcd.line 1
  if line = frameEnd then pure lcd.nextFrame
  else pure { lcd with dot := 0, line }.updateStat

/-- Scan the sprite table and begin the transfer. -/
def checkedEndScan : Option (Lcd × List Signal) := do
  let lcd ← lcd.checkedScanSprites
  pure (lcd.enter .transfer)

/-- Draw the line and begin the horizontal blank. -/
def checkedEndTransfer : Option (Lcd × List Signal) := do
  let lcd ← lcd.checkedDrawLine
  pure (lcd.enter .hblank)

/-- One dot. -/
def checkedTick : Option (Lcd × List Signal) :=
  if lcd.enabled then do
    let dot ← sum? 16 lcd.dot 1
    let lcd := { lcd with dot }
    match lcd.mode with
    | .oamScan => if lcd.dot = scanEnd then lcd.checkedEndScan else pure (lcd, [])
    | .transfer => if lcd.dot = transferEnd then lcd.checkedEndTransfer else pure (lcd, [])
    | .hblank => if lcd.dot = lineEnd then lcd.checkedNextLine else pure (lcd, [])
    | .vblank => if lcd.dot = lineEnd then lcd.checkedNextBlankLine else pure (lcd, [])
  else pure (lcd, [])

/-- A number of dots. -/
def checkedRun (lcd : Lcd) : Nat → Option (Lcd × List Signal)
  | 0 => pure (lcd, [])
  | dots + 1 => do
    let (lcd, signals) ← lcd.checkedTick
    let (lcd, later) ← lcd.checkedRun dots
    pure (lcd, signals ++ later)

variable {lcd}

theorem checkedReaches_eq (tall : Bool) (index : Fin spriteCount) :
    lcd.checkedReaches tall index = some ((lcd.sprite index).onLine tall lcd.line) := by
  have := (lcd.sprite index).y.toNat_lt
  have rows : Sprite.height tall ≤ 16 := by cases tall <;> decide
  have reaches : (lcd.sprite index).onLine tall lcd.line = true ↔ _ := onLine_iff
  simp only [checkedReaches, checkedSprite_eq, Option.bind_eq_bind, Option.bind_some]
  rw [signed?_of_mem (by omega) (by omega), Option.bind_some]
  by_cases above : ((lcd.sprite index).y.toNat : Int) - 16 ≤ lcd.line
  · rw [if_pos above, signed?_of_mem (by omega) (by omega), Option.bind_some,
      Option.pure_def, Option.some_inj, Bool.eq_iff_iff, reaches, decide_eq_true_iff]
    omega
  · rw [if_neg above, Option.pure_def, Option.some_inj, Bool.eq_iff_iff, reaches]
    exact iff_of_false Bool.false_ne_true (by omega)

theorem checkedScanSprites_eq : lcd.checkedScanSprites = some lcd.scanSprites := by
  rw [checkedScanSprites, filter?_of_forall (checkedReaches_eq _)]
  rfl

theorem checkedEndScan_eq :
    lcd.checkedEndScan = some (lcd.scanSprites.enter .transfer) := by
  rw [checkedEndScan, checkedScanSprites_eq]
  rfl

theorem checkedEndTransfer_eq (visible : lcd.line < screenHeight)
    (few : lcd.lineSprites.length ≤ spritesPerLine) :
    lcd.checkedEndTransfer = some (lcd.drawLine.enter .hblank) := by
  rw [checkedEndTransfer, checkedDrawLine_eq lcd visible few]
  rfl

theorem checkedNextLine_eq (few : lcd.line < frameEnd) :
    lcd.checkedNextLine = some lcd.nextLine := by
  have narrow : lcd.line + 1 < 2 ^ 8 := Nat.lt_trans (Nat.succ_lt_succ few) (by decide)
  simp only [checkedNextLine, nextLine, sum?_of_lt narrow, Option.bind_eq_bind,
    Option.bind_some]
  by_cases last : lcd.line + 1 = screenHeight
  · rw [if_pos last, if_pos last]
    rfl
  · rw [if_neg last, if_neg last]
    rfl

theorem checkedNextBlankLine_eq (few : lcd.line < frameEnd) :
    lcd.checkedNextBlankLine = some lcd.nextBlankLine := by
  have narrow : lcd.line + 1 < 2 ^ 8 := Nat.lt_trans (Nat.succ_lt_succ few) (by decide)
  rw [checkedNextBlankLine, nextBlankLine, sum?_of_lt narrow, Option.bind_eq_bind,
    Option.bind_some]
  by_cases last : lcd.line + 1 = frameEnd
  · rw [if_pos last, if_pos last]
    rfl
  · rw [if_neg last, if_neg last]
    rfl

/-- Both counters of a lit controller are far from the end of their width. -/
theorem Running.narrow (running : lcd.Running) : lcd.line < frameEnd ∧ lcd.dot < lineEnd := by
  have covered := running.covered
  cases mode : lcd.mode <;>
    simp only [mode, Mode.Covers, screenHeight, frameEnd, scanEnd, transferEnd, lineEnd]
      at covered ⊢ <;> omega

/-- A dot of a controller in a state that can occur never fails. -/
theorem checkedTick_eq (sound : lcd.Sound) : lcd.checkedTick = some lcd.tick := by
  by_cases enabled : lcd.enabled = true
  · obtain ⟨line_lt, dot_lt⟩ := (sound.running enabled).narrow
    have covered := sound.lit enabled
    have narrow : lcd.dot + 1 < 2 ^ 16 := Nat.lt_trans (Nat.succ_lt_succ dot_lt) (by decide)
    rw [checkedTick, tick, if_pos enabled, if_pos enabled, sum?_of_lt narrow,
      Option.bind_eq_bind, Option.bind_some]
    cases mode : lcd.mode with
    | oamScan =>
        simp only
        split
        · exact checkedEndScan_eq
        · rfl
    | transfer =>
        rw [mode] at covered
        simp only
        split
        · exact checkedEndTransfer_eq covered.1 sound.few
        · rfl
    | hblank =>
        simp only
        split
        · exact checkedNextLine_eq line_lt
        · rfl
    | vblank =>
        simp only
        split
        · exact checkedNextBlankLine_eq line_lt
        · rfl
  · rw [checkedTick, if_neg enabled, tick_of_disabled (Bool.eq_false_of_not_eq_true enabled)]
    rfl

/-- Time never fails to pass for a controller in a state that can occur. -/
theorem checkedRun_eq (sound : lcd.Sound) (dots : Nat) :
    lcd.checkedRun dots = some (lcd.run dots) := by
  induction dots generalizing lcd with
  | zero => rfl
  | succ dots ih =>
      simp only [checkedRun, checkedTick_eq sound, Option.bind_eq_bind, Option.bind_some,
        ih sound.tick]
      rfl

end GameBoy.Lcd
