import GameBoy.Proofs.Lcd.Sound
import GameBoy.Proofs.Lcd.Timeline

/-!
# The interrupt line

The controller keeps the level of its interrupt line, and looks at the chosen
conditions again only at some of its changes. The line is nevertheless up to date at
every moment: a change after which it is not looked at leaves all the conditions as
they are. So the interrupt is requested at every rising edge of the conditions, once,
and at no other change.
-/

namespace GameBoy.Lcd

/-- One of the chosen conditions holds while the screen is on. -/
def StatSignal (lcd : Lcd) : Prop :=
  lcd.control.bit 7 = true ∧
    (lcd.statSelect.bit 6 = true ∧ lcd.line = lcd.lineCompare.toNat ∨
      lcd.statSelect.bit 3 = true ∧ lcd.mode = .hblank ∨
      lcd.statSelect.bit 4 = true ∧ lcd.mode = .vblank ∨
      lcd.statSelect.bit 5 = true ∧ lcd.mode = .oamScan)

instance (lcd : Lcd) : Decidable lcd.StatSignal :=
  inferInstanceAs (Decidable (_ ∧ _))

/-- A single change: one dot, or an action that takes no time. -/
def Action.Single : Action → Prop
  | .run dots => dots = 1
  | _ => True

/-- The interrupt line has the level of its conditions. -/
def LineCurrent (lcd : Lcd) : Prop := lcd.statLine = lcd.statCondition

/-- How often reports request an interrupt. -/
def requestCount (interrupt : Interrupt) (signals : List Signal) : Nat :=
  signals.countP (·.requests interrupt)

/-- A change after which the line is up to date, and which requested the interrupt
exactly if the line rose. -/
structure Follows (before : Lcd) (change : Lcd × List Signal) : Prop where
  current : change.1.LineCurrent
  requests : requestCount .stat change.2 =
    if before.statLine = false ∧ change.1.statLine = true then 1 else 0

theorem statCondition_iff (lcd : Lcd) : lcd.statCondition = true ↔ lcd.StatSignal := by
  cases mode : lcd.mode <;>
    simp [statCondition, StatSignal, enabled, coincides, selects, mode]

theorem LineCurrent.statLine_iff {lcd : Lcd} (current : lcd.LineCurrent) :
    lcd.statLine = true ↔ lcd.StatSignal := by
  rw [current, statCondition_iff]

/-! ## Looking at the conditions -/

theorem requests_stat (signal : Signal) :
    signal.requests .stat = true ↔ ∃ line mode, signal = .statEdge line mode := by
  cases signal with
  | statEdge line mode =>
      simp only [Signal.requests, Board.receive]
      exact ⟨fun _ => ⟨line, mode, rfl⟩, fun _ => by decide⟩
  | switchedOff | switchedOn | verticalBlank =>
      simp only [Signal.requests, Board.receive, reduceCtorEq, exists_false, iff_false]
      decide

/-- Looking at the conditions brings the line up to date and reports its rise. -/
theorem follows_updateStat {before lcd : Lcd} (same : lcd.statLine = before.statLine) :
    Follows before lcd.updateStat := by
  refine ⟨rfl, ?_⟩
  simp only [updateStat, same, requestCount]
  cases before.statLine with
  | true => simp
  | false =>
      cases lcd.statCondition with
      | true => simp [requests_stat]
      | false => simp

theorem follows_enter {before lcd : Lcd} (same : lcd.statLine = before.statLine)
    (mode : Mode) : Follows before (lcd.enter mode) :=
  follows_updateStat same

/-- A change that touches neither the line nor its conditions. -/
theorem follows_silent {before after : Lcd} (current : before.LineCurrent)
    (line : after.statLine = before.statLine)
    (condition : after.statCondition = before.statCondition) :
    Follows before (after, []) := by
  refine ⟨?_, ?_⟩
  · rw [LineCurrent, line, condition]
    exact current
  · rw [if_neg]
    · rfl
    · rintro ⟨low, high⟩
      exact nomatch (low.symm.trans line.symm).trans high

/-! ## Changes -/

/-- A dot looks at the conditions whenever it changes one. -/
theorem follows_tick {lcd : Lcd} (sound : lcd.Sound) (current : lcd.LineCurrent) :
    Follows lcd lcd.tick := by
  cases enabled : lcd.enabled with
  | false =>
      rw [tick_of_disabled enabled]
      exact follows_silent current rfl rfl
  | true =>
      have result := (sound.running enabled).dotResult
      generalize lcd.tick = after at result
      cases result with
      | counted => exact follows_silent current rfl rfl
      | scanned | drawn | nextLine =>
          apply follows_enter
          rfl
      | nextFrame =>
          apply follows_enter
          rfl
      | nextBlankLine => exact follows_updateStat rfl
      | blanked =>
          have entered :
              Follows lcd ({ lcd with dot := 0, line := lcd.line + 1 }.enter .vblank) := by
            apply follows_enter
            rfl
          refine ⟨entered.current, ?_⟩
          rw [← entered.requests, requestCount, List.countP_append]
          rfl

theorem writeControl_of_same {lcd : Lcd} {value : Byte} (same : value.bit 7 = lcd.enabled) :
    lcd.writeControl value = ({ lcd with control := value }, []) := by
  have now : ({ lcd with control := value } : Lcd).enabled = lcd.enabled := same
  cases before : lcd.enabled <;> simp [writeControl, now, before]

theorem writeControl_of_darkened {lcd : Lcd} {value : Byte} (on : lcd.enabled = true)
    (off : value.bit 7 = false) :
    lcd.writeControl value = { lcd with control := value }.switchOff := by
  have now : ({ lcd with control := value } : Lcd).enabled = false := off
  simp [writeControl, on, now]

theorem writeControl_of_lit {lcd : Lcd} {value : Byte} (off : lcd.enabled = false)
    (on : value.bit 7 = true) :
    lcd.writeControl value = { lcd with control := value }.switchOn := by
  have now : ({ lcd with control := value } : Lcd).enabled = true := on
  simp [writeControl, off, now]

/-- Switching the screen off lets the line fall, and switching it on may let it
rise. -/
theorem follows_writeControl {lcd : Lcd} (current : lcd.LineCurrent) (value : Byte) :
    Follows lcd (lcd.writeControl value) := by
  by_cases same : value.bit 7 = lcd.enabled
  · rw [writeControl_of_same same]
    have now : ({ lcd with control := value } : Lcd).enabled = lcd.enabled := same
    have condition : ({ lcd with control := value } : Lcd).statCondition = lcd.statCondition := by
      simp only [statCondition, now]
      rfl
    exact follows_silent current rfl condition
  · cases before : lcd.enabled with
    | true =>
        have off : value.bit 7 = false := by simpa [before] using same
        rw [writeControl_of_darkened before off]
        constructor
        · simp only [LineCurrent, switchOff, statCondition, Lcd.enabled, off, Bool.false_and]
        · simp [switchOff, requestCount, requests_stat]
    | false =>
        have on : value.bit 7 = true := by simpa [before] using same
        rw [writeControl_of_lit before on]
        have entered : Follows lcd
            ({ lcd with control := value, line := 0, dot := 0, windowLine := 0 }.enter
              .oamScan) := by
          apply follows_enter
          rfl
        exact ⟨entered.current, entered.requests⟩

theorem follows_write {lcd : Lcd} (current : lcd.LineCurrent) (register : Register)
    (value : Byte) : Follows lcd (lcd.write register value) := by
  cases register with
  | control => exact follows_writeControl current value
  | status | lineCompare =>
      apply follows_updateStat
      rfl
  | scrollY | scrollX | line | backgroundPalette | spritePalette0 | spritePalette1
  | windowY | windowX => exact follows_silent current rfl rfl

/-- Every single change keeps the line up to date and requests the interrupt on its
rise alone. -/
theorem follows_perform {lcd : Lcd} (sound : lcd.Sound) (current : lcd.LineCurrent)
    {action : Action} (single : action.Single) : Follows lcd (lcd.perform action) := by
  cases action with
  | run dots =>
      cases single
      have once : lcd.run 1 = lcd.tick := by
        simp only [run, List.append_nil]
      rw [perform, once]
      exact follows_tick sound current
  | write register value => exact follows_write current register value
  | writeVram offset value =>
      simp only [perform, writeVram]
      split <;> exact follows_silent current rfl rfl
  | writeOam offset value =>
      simp only [perform, writeOam]
      split <;> exact follows_silent current rfl rfl
  | transfer oam => exact follows_silent current rfl rfl

/-! ## Histories -/

theorem Sound.perform {lcd : Lcd} (sound : lcd.Sound) (action : Action) :
    (lcd.perform action).1.Sound := by
  cases action with
  | run dots => exact sound.run dots
  | write register value => exact sound.write register value
  | writeVram offset value => exact sound.writeVram offset value
  | writeOam offset value => exact sound.writeOam offset value
  | transfer oam => exact sound.transfer oam

theorem LineCurrent.run {lcd : Lcd} (sound : lcd.Sound) (current : lcd.LineCurrent)
    (dots : Nat) : (lcd.run dots).1.LineCurrent := by
  induction dots generalizing lcd with
  | zero => exact current
  | succ dots ih => exact ih sound.tick (follows_tick sound current).current

theorem LineCurrent.perform {lcd : Lcd} (sound : lcd.Sound) (current : lcd.LineCurrent)
    (action : Action) : (lcd.perform action).1.LineCurrent := by
  cases action with
  | run dots => exact current.run sound dots
  | write | writeVram | writeOam | transfer =>
      apply Follows.current
      apply follows_perform sound current
      exact trivial

theorem lineCurrent_performAll {lcd : Lcd} (sound : lcd.Sound) (current : lcd.LineCurrent)
    (actions : List Action) :
    (lcd.performAll actions).Sound ∧ (lcd.performAll actions).LineCurrent := by
  induction actions generalizing lcd with
  | nil => exact ⟨sound, current⟩
  | cons action actions ih => exact ih (sound.perform action) (current.perform sound action)

/-- From a dark controller or from one that a boot program left, after whatever dots
and writes, the interrupt line has the level of its conditions; and a single dot or
write requests the interrupt, once, exactly if it lets the line rise. -/
theorem statLine_current {start : Lcd} (initial : start = {} ∨ start = afterBoot)
    (actions : List Action) :
    let lcd := start.performAll actions
    (lcd.statLine = true ↔ lcd.StatSignal) ∧
      ∀ action : Action, action.Single →
        requestCount .stat (lcd.perform action).2 =
          if ¬lcd.StatSignal ∧ (lcd.perform action).1.StatSignal then 1 else 0 := by
  have first : start.Sound ∧ start.LineCurrent := by
    rcases initial with rfl | rfl
    · exact ⟨sound_new, rfl⟩
    · exact ⟨sound_afterBoot, rfl⟩
  obtain ⟨sound, current⟩ := lineCurrent_performAll first.1 first.2 actions
  refine ⟨current.statLine_iff, fun action single => ?_⟩
  have follows := follows_perform sound current single
  rw [follows.requests]
  simp only [← follows.current.statLine_iff, ← current.statLine_iff, Bool.not_eq_true]

/-- While the line is high for the sake of the line number, choosing the scan of the
sprite table as well requests nothing. -/
theorem statLine_blocked :
    let lcd := afterBoot.performAll [.write .status 0x40, .run 3]
    lcd.statLine = true ∧ requestCount .stat (lcd.perform (.write .status 0x60)).2 = 0 := by
  obtain ⟨high, counts⟩ :=
    statLine_current (.inr rfl : afterBoot = {} ∨ _) [.write .status 0x40, .run 3]
  constructor
  · exact high.mpr (by decide)
  · exact (counts (.write .status 0x60) trivial).trans (by decide)

end GameBoy.Lcd
