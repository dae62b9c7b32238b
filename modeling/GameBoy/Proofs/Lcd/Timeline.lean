import GameBoy.Board
import GameBoy.Proofs.Lcd.Schedule
import Mathlib.Algebra.Ring.Nat

/-!
# The timeline of a lit screen

From the moment the screen lights up, the number of dots that have passed says
everything about the controller's progress: which line and dot it is at, in which
mode, when vertical blank was requested and when a frame was completed. Nothing
that is written meanwhile can change that, as long as the screen stays on. The
history of a lit screen is cut into its single changes, so that each request and
each exchange of frames can be dated.
-/

namespace GameBoy.Lcd

/-- Dots in a frame. -/
def frameDots : Nat := frameEnd * lineEnd

/-- Dots from the start of a frame to its vertical blank. -/
def blankStart : Nat := screenHeight * lineEnd

/-- Something that happens to the controller: time passes, the processor writes,
or a transfer replaces the sprite table. -/
inductive Action where
  | run (dots : Nat)
  | write (register : Register) (value : Byte)
  | writeVram (offset : Fin 0x2000) (value : Byte)
  | writeOam (offset : Fin 0xA0) (value : Byte)
  | transfer (oam : Vector Byte 0xA0)

namespace Action

/-- Dots that pass. -/
def dots : Action → Nat
  | run dots => dots
  | _ => 0

/-- Whether the action leaves a lit screen on. -/
def KeepsOn : Action → Prop
  | write .control value => value.bit 7 = true
  | _ => True

end Action

/-- The controller after an action, and its reports. -/
def perform (lcd : Lcd) : Action → Lcd × List Signal
  | .run dots => lcd.run dots
  | .write register value => lcd.write register value
  | .writeVram offset value => (lcd.writeVram offset value, [])
  | .writeOam offset value => (lcd.writeOam offset value, [])
  | .transfer oam => ({ lcd with oam }, [])

/-- The controller after a history. -/
def performAll (lcd : Lcd) : List Action → Lcd
  | [] => lcd
  | action :: actions => (lcd.perform action).1.performAll actions

/-- The reports of a history. -/
def reports (lcd : Lcd) : List Action → List Signal
  | [] => []
  | action :: actions => (lcd.perform action).2 ++ (lcd.perform action).1.reports actions

/-- A screen that has just lit up: by a write to its dark controller, or by a
boot program. -/
inductive JustLit : Lcd → Prop where
  | switchedOn (lcd : Lcd) (value : Byte) (off : lcd.enabled = false)
      (on : value.bit 7 = true) : JustLit (lcd.writeControl value).1
  | afterBoot : JustLit afterBoot

/-- Whether a report requests an interrupt. -/
def Signal.requests (signal : Signal) (interrupt : Interrupt) : Bool :=
  (Board.receive {} signal).1.requested &&& interrupt.mask != 0

/-- A single change in a history: one dot, or one action that takes no time. -/
structure Change where
  /-- Dots since the history began, this one included. -/
  date : Nat
  isDot : Bool
  before : Lcd
  signals : List Signal
  after : Lcd

namespace Change

/-- The frame under way becomes the one shown. -/
def Exchanges (change : Change) : Prop :=
  change.after.shown = change.before.drawn ∧ change.after.drawn = change.before.shown ∧
    change.after.frameReady = true

/-- The frame shown stays, and no completed frame is announced. -/
def KeepsShown (change : Change) : Prop :=
  change.after.shown = change.before.shown ∧
    change.after.frameReady = change.before.frameReady

/-- The dates at which an interrupt was requested, each as often as it was. -/
def requestDates (interrupt : Interrupt) (changes : List Change) : List Nat :=
  changes.flatMap fun change =>
    (change.signals.filter (·.requests interrupt)).map fun _ => change.date

end Change

/-- The changes during a number of dots. -/
def runChanges (lcd : Lcd) (elapsed : Nat) : Nat → List Change
  | 0 => []
  | dots + 1 =>
    { date := elapsed + 1
      isDot := true
      before := lcd
      signals := lcd.tick.2
      after := lcd.tick.1 } :: lcd.tick.1.runChanges (elapsed + 1) dots

/-- The changes during a history. -/
def changes (lcd : Lcd) (elapsed : Nat) : List Action → List Change
  | [] => []
  | .run dots :: actions =>
    lcd.runChanges elapsed dots ++ (lcd.run dots).1.changes (elapsed + dots) actions
  | action :: actions =>
    { date := elapsed
      isDot := false
      before := lcd
      signals := (lcd.perform action).2
      after := (lcd.perform action).1 } :: (lcd.perform action).1.changes elapsed actions

/-! ## Where the controller is -/

/-- The controller stands where a lit screen stands after a number of dots. -/
structure At (lcd : Lcd) (elapsed : Nat) : Prop where
  running : lcd.Running
  line : lcd.line = elapsed / lineEnd % frameEnd
  dot : lcd.dot = elapsed % lineEnd

/-- A screen that lights up stands at the start of its first frame. -/
theorem fst_writeControl_of_off {lcd : Lcd} {value : Byte} (off : lcd.enabled = false)
    (on : value.bit 7 = true) :
    (lcd.writeControl value).1 =
      ({ lcd with control := value, line := 0, dot := 0, windowLine := 0 }.enter .oamScan).1 := by
  have now : ({ lcd with control := value } : Lcd).enabled = true := on
  simp only [writeControl, off, now]
  rfl

theorem JustLit.at_zero {lcd : Lcd} (lit : JustLit lcd) : lcd.At 0 := by
  cases lit with
  | switchedOn lcd value off on =>
      rw [fst_writeControl_of_off off on]
      exact ⟨⟨on, (by decide : 0 < screenHeight), (by decide : 0 < scanEnd)⟩, rfl, rfl⟩
  | afterBoot =>
      exact ⟨⟨rfl, (by decide : 0 < screenHeight), (by decide : 0 < scanEnd)⟩, rfl, rfl⟩

theorem At.tick {lcd : Lcd} {elapsed : Nat} (here : lcd.At elapsed) :
    lcd.tick.1.At (elapsed + 1) := by
  obtain ⟨running, line, dot⟩ := here
  refine ⟨running.tick, ?_, ?_⟩
  · rw [running.line_tick, line, dot]
    by_cases last : elapsed % lineEnd + 1 = lineEnd
    · rw [if_pos last]
      simp only [lineEnd, frameEnd] at last ⊢
      omega
    · rw [if_neg last]
      simp only [lineEnd, frameEnd] at last ⊢
      omega
  · rw [running.dot_tick, dot]
    simp only [lineEnd]
    omega

theorem At.run {lcd : Lcd} {elapsed : Nat} (here : lcd.At elapsed) (dots : Nat) :
    (lcd.run dots).1.At (elapsed + dots) := by
  induction dots generalizing lcd elapsed with
  | zero => exact here
  | succ dots ih =>
      have rest := ih here.tick
      rwa [Nat.add_assoc, Nat.add_comm 1] at rest

/-- Two states of a lit screen at the same place of the schedule, with the same
frame shown. -/
structure SamePlace (before after : Lcd) : Prop where
  enabled : after.enabled = true
  mode : after.mode = before.mode
  line : after.line = before.line
  dot : after.dot = before.dot
  shown : after.shown = before.shown
  frameReady : after.frameReady = before.frameReady

/-- What is written to a lit screen does not move it. -/
theorem samePlace_perform {lcd : Lcd} (enabled : lcd.enabled = true) {action : Action}
    (keepsOn : action.KeepsOn) (instant : ∀ dots, action ≠ .run dots) :
    SamePlace lcd (lcd.perform action).1 := by
  cases action with
  | run dots => exact absurd rfl (instant dots)
  | write register value =>
      cases register with
      | control =>
          have now : ({ lcd with control := value } : Lcd).enabled = true := keepsOn
          simp only [perform, write, writeControl, enabled, now]
          exact ⟨now, rfl, rfl, rfl, rfl, rfl⟩
      | status | lineCompare | scrollY | scrollX | line | backgroundPalette
      | spritePalette0 | spritePalette1 | windowY | windowX =>
          exact ⟨enabled, rfl, rfl, rfl, rfl, rfl⟩
  | writeVram offset value =>
      simp only [perform, writeVram]
      split <;> exact ⟨enabled, rfl, rfl, rfl, rfl, rfl⟩
  | writeOam offset value =>
      simp only [perform, writeOam]
      split <;> exact ⟨enabled, rfl, rfl, rfl, rfl, rfl⟩
  | transfer oam => exact ⟨enabled, rfl, rfl, rfl, rfl, rfl⟩

/-- What is written to a lit screen does not request vertical blank. -/
theorem verticalBlank_notMem_perform {lcd : Lcd} (enabled : lcd.enabled = true)
    {action : Action} (keepsOn : action.KeepsOn) (instant : ∀ dots, action ≠ .run dots) :
    Signal.verticalBlank ∉ (lcd.perform action).2 := by
  cases action with
  | run dots => exact absurd rfl (instant dots)
  | write register value =>
      cases register with
      | control =>
          have now : ({ lcd with control := value } : Lcd).enabled = true := keepsOn
          simp [perform, write, writeControl, enabled, now]
      | status | lineCompare => exact verticalBlank_notMem_updateStat _
      | scrollY | scrollX | line | backgroundPalette | spritePalette0 | spritePalette1
      | windowY | windowX => exact List.not_mem_nil
  | writeVram | writeOam | transfer => exact List.not_mem_nil

theorem At.of_samePlace {before after : Lcd} {elapsed : Nat} (here : before.At elapsed)
    (same : SamePlace before after) : after.At elapsed := by
  refine ⟨⟨same.enabled, ?_⟩, same.line.trans here.line, same.dot.trans here.dot⟩
  rw [same.mode, same.line, same.dot]
  exact here.running.covered

theorem Action.dots_of_instant {action : Action} (instant : ∀ dots, action ≠ .run dots) :
    action.dots = 0 := by
  cases action with
  | run dots => exact absurd rfl (instant dots)
  | write | writeVram | writeOam | transfer => rfl

theorem At.perform {lcd : Lcd} {elapsed : Nat} (here : lcd.At elapsed) {action : Action}
    (keepsOn : action.KeepsOn) :
    (lcd.perform action).1.At (elapsed + action.dots) := by
  by_cases instant : ∀ dots, action ≠ .run dots
  · rw [Action.dots_of_instant instant]
    exact here.of_samePlace (samePlace_perform here.running.enabled keepsOn instant)
  · obtain ⟨dots, rfl⟩ : ∃ dots, action = .run dots := by simpa using instant
    exact here.run dots

theorem At.performAll {lcd : Lcd} {elapsed : Nat} (here : lcd.At elapsed)
    {actions : List Action} (keepsOn : ∀ action ∈ actions, action.KeepsOn) :
    (lcd.performAll actions).At (elapsed + (actions.map Action.dots).sum) := by
  induction actions generalizing lcd elapsed with
  | nil => exact here
  | cons action actions ih =>
      have rest := ih (here.perform (keepsOn action List.mem_cons_self))
        fun other member => keepsOn other (List.mem_cons_of_mem action member)
      rwa [Nat.add_assoc] at rest

/-! ## What is dated -/

theorem requests_vblank (signal : Signal) :
    signal.requests .vblank = decide (signal = .verticalBlank) := by
  cases signal with
  | switchedOff | switchedOn | statEdge =>
      simp only [Signal.requests, Board.receive, reduceCtorEq]
      decide
  | verticalBlank => rfl

theorem filter_requests_vblank {signals : List Signal}
    (absent : Signal.verticalBlank ∉ signals) :
    signals.filter (·.requests .vblank) = [] := by
  refine List.filter_eq_nil_iff.mpr fun signal member requested => absent ?_
  rw [requests_vblank, decide_eq_true_eq] at requested
  exact requested ▸ member

/-- The next dot begins the vertical blank. -/
theorem At.blank_iff {lcd : Lcd} {elapsed : Nat} (here : lcd.At elapsed) :
    (elapsed + 1) % frameDots = blankStart ↔
      lcd.line + 1 = screenHeight ∧ lcd.dot + 1 = lineEnd := by
  rw [here.line, here.dot]
  simp only [frameDots, blankStart, lineEnd, frameEnd, screenHeight]
  omega

/-- The next dot ends the frame. -/
theorem At.frame_iff {lcd : Lcd} {elapsed : Nat} (here : lcd.At elapsed) :
    frameDots ∣ elapsed + 1 ↔ lcd.line + 1 = frameEnd ∧ lcd.dot + 1 = lineEnd := by
  rw [here.line, here.dot]
  simp only [frameDots, lineEnd, frameEnd]
  omega

/-- A dot requests vertical blank once when it begins, and never otherwise. -/
theorem Running.filter_tick {lcd : Lcd} (running : lcd.Running) :
    lcd.tick.2.filter (·.requests .vblank) =
      if lcd.line + 1 = screenHeight ∧ lcd.dot + 1 = lineEnd then [.verticalBlank]
      else [] := by
  have covered := running.covered
  have result := running.dotResult
  generalize lcd.tick = after at result
  cases result with
  | counted early =>
      rw [if_neg]
      · rfl
      · cases mode : lcd.mode <;>
          simp only [mode, Mode.finish, Mode.Covers, scanEnd, transferEnd, lineEnd,
            screenHeight] at early covered ⊢ <;> omega
  | scanned mode last | drawn mode last =>
      rw [filter_requests_vblank (verticalBlank_notMem_enter _ _), if_neg]
      simp [last, scanEnd, transferEnd, lineEnd]
  | nextLine mode last visible =>
      rw [filter_requests_vblank (verticalBlank_notMem_enter _ _), if_neg]
      omega
  | blanked mode last lowest =>
      rw [List.filter_append, filter_requests_vblank (verticalBlank_notMem_enter _ _),
        if_pos ⟨lowest, last⟩]
      rfl
  | nextBlankLine mode last below =>
      rw [filter_requests_vblank (verticalBlank_notMem_updateStat _), if_neg]
      omega
  | nextFrame mode last lowest =>
      rw [nextFrame, filter_requests_vblank (verticalBlank_notMem_enter _ _), if_neg]
      simp [lowest, frameEnd, screenHeight]

/-- A dot exchanges the frames when it ends one, and keeps the one shown
otherwise. -/
theorem Running.shown_tick {lcd : Lcd} (running : lcd.Running) :
    if lcd.line + 1 = frameEnd ∧ lcd.dot + 1 = lineEnd then
      lcd.tick.1.shown = lcd.drawn ∧ lcd.tick.1.drawn = lcd.shown ∧
        lcd.tick.1.frameReady = true
    else lcd.tick.1.shown = lcd.shown ∧ lcd.tick.1.frameReady = lcd.frameReady := by
  have covered := running.covered
  have result := running.dotResult
  generalize lcd.tick = after at result
  cases result with
  | counted early =>
      rw [if_neg]
      · exact ⟨rfl, rfl⟩
      · cases mode : lcd.mode <;>
          simp only [mode, Mode.finish, Mode.Covers, scanEnd, transferEnd, lineEnd,
            screenHeight, frameEnd] at early covered ⊢ <;> omega
  | scanned mode last | drawn mode last =>
      rw [if_neg]
      · exact ⟨rfl, rfl⟩
      · simp [last, scanEnd, transferEnd, lineEnd]
  | nextLine mode last visible =>
      rw [if_neg]
      · exact ⟨rfl, rfl⟩
      · simp only [screenHeight, frameEnd] at visible ⊢
        omega
  | blanked mode last lowest =>
      rw [if_neg]
      · exact ⟨rfl, rfl⟩
      · simp [lowest, frameEnd, screenHeight]
  | nextBlankLine mode last below more =>
      rw [if_neg]
      · exact ⟨rfl, rfl⟩
      · omega
  | nextFrame mode last lowest =>
      rw [if_pos ⟨lowest, last⟩]
      exact ⟨rfl, rfl, rfl⟩

/-! ## The changes of a history -/

/-- A change that does what its date says. -/
def Change.Scheduled (change : Change) : Prop :=
  (change.isDot = true ∧ frameDots ∣ change.date → change.Exchanges) ∧
    (¬(change.isDot = true ∧ frameDots ∣ change.date) → change.KeepsShown)

/-- Whether vertical blank is due at a dot. -/
def blankDue (date : Nat) : Bool := date % frameDots = blankStart

theorem requestDates_append (interrupt : Interrupt)
    (earlier later : List Change) :
    Change.requestDates interrupt (earlier ++ later) =
      Change.requestDates interrupt earlier ++ Change.requestDates interrupt later :=
  List.flatMap_append

theorem requestDates_cons (interrupt : Interrupt) (change : Change)
    (changes : List Change) :
    Change.requestDates interrupt (change :: changes) =
      (change.signals.filter (·.requests interrupt)).map (fun _ => change.date) ++
        Change.requestDates interrupt changes :=
  List.flatMap_cons

theorem At.requestDates_runChanges {lcd : Lcd} {elapsed : Nat} (here : lcd.At elapsed)
    (dots : Nat) :
    Change.requestDates .vblank (lcd.runChanges elapsed dots) =
      (List.range' (elapsed + 1) dots).filter blankDue := by
  induction dots generalizing lcd elapsed with
  | zero => rfl
  | succ dots ih =>
      simp only [runChanges, requestDates_cons, List.range'_succ, List.filter_cons]
      rw [ih here.tick, here.running.filter_tick]
      simp only [blankDue, here.blank_iff, decide_eq_true_eq]
      split <;> rfl

/-- The changes of a run leave out none of its reports. -/
theorem signals_runChanges (lcd : Lcd) (elapsed dots : Nat) :
    (lcd.runChanges elapsed dots).flatMap (·.signals) = (lcd.run dots).2 := by
  induction dots generalizing lcd elapsed with
  | zero => rfl
  | succ dots ih =>
      rw [runChanges, List.flatMap_cons, ih]
      rfl

theorem dates_runChanges (lcd : Lcd) (elapsed dots : Nat) :
    ((lcd.runChanges elapsed dots).filter (·.isDot)).map (·.date) =
      List.range' (elapsed + 1) dots := by
  induction dots generalizing lcd elapsed with
  | zero => rfl
  | succ dots ih => simp [runChanges, List.range'_succ, ih]

theorem At.scheduled_runChanges {lcd : Lcd} {elapsed : Nat} (here : lcd.At elapsed)
    (dots : Nat) : ∀ change ∈ lcd.runChanges elapsed dots, change.Scheduled := by
  induction dots generalizing lcd elapsed with
  | zero => simp [runChanges]
  | succ dots ih =>
      intro change member
      rcases List.mem_cons.mp member with rfl | later
      · have shown := here.running.shown_tick
        simp only [Change.Scheduled, here.frame_iff, true_and]
        constructor
        · intro last
          rwa [if_pos last] at shown
        · intro notLast
          rwa [if_neg notLast] at shown
      · exact ih here.tick change later

theorem changes_cons_of_instant (lcd : Lcd) (elapsed : Nat) {action : Action}
    (instant : ∀ dots, action ≠ .run dots) (actions : List Action) :
    lcd.changes elapsed (action :: actions) =
      { date := elapsed
        isDot := false
        before := lcd
        signals := (lcd.perform action).2
        after := (lcd.perform action).1 } ::
          (lcd.perform action).1.changes elapsed actions := by
  cases action with
  | run dots => exact absurd rfl (instant dots)
  | write | writeVram | writeOam | transfer => rfl

theorem range'_append_dots (elapsed dots : Nat) (actions : List Action) :
    List.range' (elapsed + 1) dots ++
        List.range' (elapsed + dots + 1) (actions.map Action.dots).sum =
      List.range' (elapsed + 1) (dots + (actions.map Action.dots).sum) := by
  rw [Nat.add_right_comm, List.range'_append_1]

variable {lcd : Lcd} {elapsed : Nat} {actions : List Action}

theorem At.requestDates_changes (here : lcd.At elapsed)
    (keepsOn : ∀ action ∈ actions, action.KeepsOn) :
    Change.requestDates .vblank (lcd.changes elapsed actions) =
      (List.range' (elapsed + 1) (actions.map Action.dots).sum).filter blankDue := by
  induction actions generalizing lcd elapsed with
  | nil => rfl
  | cons action actions ih =>
      have now := keepsOn action List.mem_cons_self
      have rest := ih (here.perform now)
        fun other member => keepsOn other (List.mem_cons_of_mem action member)
      by_cases instant : ∀ dots, action ≠ .run dots
      · have silent := verticalBlank_notMem_perform here.running.enabled now instant
        rw [Action.dots_of_instant instant] at rest
        rw [changes_cons_of_instant lcd elapsed instant, requestDates_cons,
          filter_requests_vblank silent, List.map_cons, List.sum_cons,
          Action.dots_of_instant instant, Nat.zero_add]
        exact rest
      · obtain ⟨dots, rfl⟩ : ∃ dots, action = .run dots := by simpa using instant
        rw [changes, requestDates_append, here.requestDates_runChanges, List.map_cons,
          List.sum_cons, Action.dots, ← range'_append_dots, List.filter_append]
        exact congrArg _ rest

/-- The changes of a history leave out none of its reports. -/
theorem signals_changes (lcd : Lcd) (elapsed : Nat) (actions : List Action) :
    (lcd.changes elapsed actions).flatMap (·.signals) = lcd.reports actions := by
  induction actions generalizing lcd elapsed with
  | nil => rfl
  | cons action actions ih =>
      by_cases instant : ∀ dots, action ≠ .run dots
      · rw [changes_cons_of_instant lcd elapsed instant, List.flatMap_cons, ih]
        rfl
      · obtain ⟨dots, rfl⟩ : ∃ dots, action = .run dots := by simpa using instant
        rw [changes, List.flatMap_append, signals_runChanges, ih]
        rfl

theorem dates_changes (lcd : Lcd) (elapsed : Nat) (actions : List Action) :
    ((lcd.changes elapsed actions).filter (·.isDot)).map (·.date) =
      List.range' (elapsed + 1) (actions.map Action.dots).sum := by
  induction actions generalizing lcd elapsed with
  | nil => rfl
  | cons action actions ih =>
      by_cases instant : ∀ dots, action ≠ .run dots
      · rw [changes_cons_of_instant lcd elapsed instant, List.map_cons, List.sum_cons,
          Action.dots_of_instant instant, Nat.zero_add]
        exact ih _ elapsed
      · obtain ⟨dots, rfl⟩ : ∃ dots, action = .run dots := by simpa using instant
        rw [changes, List.filter_append, List.map_append, dates_runChanges, ih,
          List.map_cons, List.sum_cons, Action.dots, range'_append_dots]

theorem At.scheduled_changes (here : lcd.At elapsed)
    (keepsOn : ∀ action ∈ actions, action.KeepsOn) :
    ∀ change ∈ lcd.changes elapsed actions, change.Scheduled := by
  induction actions generalizing lcd elapsed with
  | nil => simp [changes]
  | cons action actions ih =>
      have now := keepsOn action List.mem_cons_self
      have rest := ih (here.perform now)
        fun other member => keepsOn other (List.mem_cons_of_mem action member)
      by_cases instant : ∀ dots, action ≠ .run dots
      · have same := samePlace_perform here.running.enabled now instant
        rw [Action.dots_of_instant instant] at rest
        rw [changes_cons_of_instant lcd elapsed instant]
        intro change member
        rcases List.mem_cons.mp member with rfl | later
        · exact ⟨fun due => absurd due.1 Bool.false_ne_true,
            fun _ => ⟨same.shown, same.frameReady⟩⟩
        · exact rest change later
      · obtain ⟨dots, rfl⟩ : ∃ dots, action = .run dots := by simpa using instant
        rw [changes]
        intro change member
        rcases List.mem_append.mp member with during | later
        · exact here.scheduled_runChanges dots change during
        · exact rest change later

/-- The mode at a line and a dot. -/
def modeAt (line dot : Nat) : Mode :=
  if screenHeight ≤ line then .vblank
  else if dot < scanEnd then .oamScan
  else if dot < transferEnd then .transfer
  else .hblank

theorem Mode.Covers.eq_modeAt {mode : Mode} {line dot : Nat} (covers : mode.Covers line dot) :
    mode = modeAt line dot := by
  cases mode with
  | oamScan =>
      obtain ⟨visible, early⟩ := covers
      rw [modeAt, if_neg (Nat.not_le.mpr visible), if_pos early]
  | transfer =>
      obtain ⟨visible, scanned, early⟩ := covers
      rw [modeAt, if_neg (Nat.not_le.mpr visible), if_neg (Nat.not_lt.mpr scanned),
        if_pos early]
  | hblank =>
      obtain ⟨visible, drawn, early⟩ := covers
      have scanned : scanEnd ≤ dot := Nat.le_trans (by decide) drawn
      rw [modeAt, if_neg (Nat.not_le.mpr visible), if_neg (Nat.not_lt.mpr scanned),
        if_neg (Nat.not_lt.mpr drawn)]
  | vblank => rw [modeAt, if_pos covers.1]

/-- The timeline of a lit screen. After `n` dots, in whatever portions they pass and
whatever is written between them, the controller stands on line `n / 456` modulo
154, at dot `n` modulo 456 and in the mode of that place. The changes in between are
dated by their dots and leave out no report. Vertical blank was requested once at
every dot `144 * 456 + 70224 * k` and never otherwise; the frames were exchanged at
the dots that are multiples of 70224, and the frame shown stayed at every other dot
and at every write. -/
theorem timeline {start : Lcd} (lit : JustLit start) (actions : List Action)
    (keepsOn : ∀ action ∈ actions, action.KeepsOn) :
    let dots := (actions.map Action.dots).sum
    let final := start.performAll actions
    let changes := start.changes 0 actions
    let requested := Change.requestDates .vblank changes
    (final.line = dots / 456 % 154 ∧ final.dot = dots % 456 ∧
      final.mode = modeAt final.line final.dot) ∧
    (changes.filter (·.isDot)).map (·.date) = List.range' 1 dots ∧
    changes.flatMap (·.signals) = start.reports actions ∧
    (requested.Nodup ∧
      ∀ date, date ∈ requested ↔ date ≤ dots ∧ ∃ k, date = 144 * 456 + 70224 * k) ∧
    ∀ change ∈ changes,
      (change.isDot = true ∧ 70224 ∣ change.date → change.Exchanges) ∧
        (¬(change.isDot = true ∧ 70224 ∣ change.date) → change.KeepsShown) := by
  have start_at := lit.at_zero
  have final_at := start_at.performAll keepsOn
  have requested := start_at.requestDates_changes keepsOn
  rw [Nat.zero_add] at final_at requested
  refine ⟨⟨final_at.line, final_at.dot, final_at.running.covered.eq_modeAt⟩,
    dates_changes start 0 actions, signals_changes start 0 actions,
    ⟨?_, fun date => ?_⟩, start_at.scheduled_changes keepsOn⟩
  · rw [requested]
    exact (List.nodup_range' 1).filter _
  · rw [requested, List.mem_filter, List.mem_range'_1, blankDue, decide_eq_true_eq]
    simp only [frameDots, blankStart, frameEnd, lineEnd, screenHeight]
    constructor
    · rintro ⟨⟨-, early⟩, due⟩
      exact ⟨by omega, date / 70224, by omega⟩
    · rintro ⟨early, k, rfl⟩
      omega

/-- A frame and three dots after a boot program, with a write to the line counter
in between, the controller stands at the start of its second frame. -/
theorem timeline_of_second_frame :
    let final := afterBoot.performAll [.run 65664, .write .line 5, .run 4563]
    final.line = 0 ∧ final.dot = 3 ∧ final.mode = .oamScan := by
  obtain ⟨⟨line, dot, mode⟩, -⟩ :=
    timeline .afterBoot [.run 65664, .write .line 5, .run 4563] (by simp [Action.KeepsOn])
  have line_zero := line.trans (by decide : _ = 0)
  have dot_three := dot.trans (by decide : _ = 3)
  refine ⟨line_zero, dot_three, ?_⟩
  rw [mode, line_zero, dot_three]
  rfl

end GameBoy.Lcd
