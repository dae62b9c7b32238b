import GameBoy.Proofs.Lcd.Frames
import GameBoy.Proofs.Lcd.Picture

/-!
# Fresh frames

The two frames are exchanged and never copied, so a new frame is drawn over an old picture.
Nothing of that picture is ever shown: when a frame is completed, each of its rows was drawn
since the frame began, with the end of the one before or with the screen lighting up. So what
is shown does not depend on what the frames held at the start.
-/

namespace GameBoy.Lcd

variable {lcd : Lcd}

/-! ## Rows and frames of a history -/

/-- The row that the next dot draws. -/
def nextRow? (lcd : Lcd) : Option Row :=
  if lcd.enabled = true ∧ lcd.mode = .transfer ∧ lcd.dot + 1 = transferEnd then some lcd.lineRow
  else none

/-- The rows of the frame under way that are drawn. -/
def rowsDrawn (lcd : Lcd) : List Row := lcd.drawn.rows.toList.take lcd.linesDrawn

namespace Change

/-- A frame is completed. -/
def completes (change : Change) : Bool := change.isDot && change.before.completesFrame

/-- A frame begins: the one before is completed, or the screen lights up. -/
def begins (change : Change) : Bool :=
  change.completes || (!change.before.enabled && change.after.enabled)

/-- The row that is drawn. -/
def row? (change : Change) : Option Row := if change.isDot then change.before.nextRow? else none

/-- The rows drawn since a frame began, given those before the change. -/
def rowsAfter (rows : List Row) (change : Change) : List Row :=
  if change.begins then [] else rows ++ change.row?.toList

end Change

/-- The frames that a history completes, as they are shown then, with their dates. -/
def published (changes : List Change) : List (Nat × Frame) :=
  (changes.filter Change.completes).map fun change => (change.date, change.after.shown)

/-- At the dates at which a history completes frames, the rows drawn since each began. -/
def drawings (rows : List Row) : List Change → List (Nat × List Row)
  | [] => []
  | change :: changes =>
    (if change.completes then [(change.date, rows)] else []) ++
      drawings (change.rowsAfter rows) changes

/-- The change that a dot makes. -/
def dotChange (lcd : Lcd) (date : Nat) : Change :=
  { date, isDot := true, before := lcd, signals := lcd.tick.2, after := lcd.tick.1 }

/-- The change that an action makes that takes no time. -/
def instantChange (lcd : Lcd) (date : Nat) (action : Action) : Change :=
  { date, isDot := false, before := lcd, signals := (lcd.perform action).2
    after := (lcd.perform action).1 }

/-- Changes that lead from one state to another. -/
inductive Leads : Lcd → List Change → Lcd → Prop where
  | nil (lcd : Lcd) : Leads lcd [] lcd
  | dot (date : Nat) {lcd final : Lcd} {changes : List Change}
      (rest : Leads lcd.tick.1 changes final) : Leads lcd (lcd.dotChange date :: changes) final
  | instant (date : Nat) {lcd final : Lcd} {action : Action}
      (instant : ∀ dots, action ≠ .run dots) {changes : List Change}
      (rest : Leads (lcd.perform action).1 changes final) :
      Leads lcd (lcd.instantChange date action :: changes) final

theorem Leads.run {elapsed dots : Nat} {final : Lcd} {changes : List Change}
    (rest : Leads (lcd.run dots).1 changes final) :
    Leads lcd (lcd.runChanges elapsed dots ++ changes) final := by
  induction dots generalizing lcd elapsed with
  | zero => exact rest
  | succ dots ih => exact .dot (elapsed + 1) (ih rest)

/-- The changes of a history lead where it leads. -/
theorem leads_changes (lcd : Lcd) (elapsed : Nat) (actions : List Action) :
    Leads lcd (lcd.changes elapsed actions) (lcd.performAll actions) := by
  induction actions generalizing lcd elapsed with
  | nil => exact .nil lcd
  | cons action actions ih =>
      by_cases instant : ∀ dots, action ≠ .run dots
      · rw [changes_cons_of_instant lcd elapsed instant]
        exact .instant elapsed instant (ih _ _)
      · obtain ⟨dots, rfl⟩ : ∃ dots, action = .run dots := by simpa using instant
        exact .run (ih _ _)

/-! ## One change -/

theorem Running.completesFrame_iff (running : lcd.Running) :
    lcd.completesFrame = true ↔ lcd.line + 1 = frameEnd ∧ lcd.dot + 1 = lineEnd := by
  rw [running.at.completesFrame_iff, running.at.frame_iff]

theorem enabled_tick (running : lcd.enabled = true → lcd.Running) :
    lcd.tick.1.enabled = lcd.enabled := by
  cases enabled : lcd.enabled with
  | false => rw [tick_of_disabled enabled, enabled]
  | true => exact (running enabled).tick.enabled

/-- A row is drawn from the scene, the sprites found, the row of the window and the line. -/
theorem lineRow_congr {first second : Lcd} (scene : first.scene = second.scene)
    (sprites : first.lineSprites = second.lineSprites)
    (tall : first.lineSpritesTall = second.lineSpritesTall)
    (windowLine : first.windowLine = second.windowLine) (line : first.line = second.line) :
    first.lineRow = second.lineRow := by
  refine Vector.ext fun x inside => Fin.ext ?_
  rw [val_lineRow _ inside, val_lineRow _ inside, scene, sprites, tall, windowLine, line]

theorem nextRow?_eq_none (other : ¬ (lcd.mode = .transfer ∧ lcd.dot + 1 = transferEnd)) :
    lcd.nextRow? = none :=
  if_neg fun draws => other draws.2

/-- The rows above a new one stay, and it follows them. -/
theorem take_setRow (frame : Frame) {line : Nat} (visible : line < screenHeight) (row : Row) :
    (frame.setRow ⟨line, visible⟩ row).rows.toList.take (line + 1) =
      frame.rows.toList.take line ++ [row] := by
  have inside : line < (frame.rows.toList.set line row).length := by simpa using visible
  simp only [Frame.setRow, Vector.toList_set]
  rw [List.take_succ_eq_append_getElem inside, List.take_set_of_le (Nat.le_refl line),
    List.getElem_set_self]

/-- Where no row is drawn, as many rows are drawn as before. -/
theorem rowsDrawn_of_silent {after : Lcd} (silent : lcd.nextRow? = none)
    (drawn : after.drawn = lcd.drawn) (lines : after.linesDrawn = lcd.linesDrawn) :
    after.rowsDrawn = lcd.rowsDrawn ++ lcd.nextRow?.toList := by
  rw [silent, rowsDrawn, rowsDrawn, drawn, lines]
  exact (List.append_nil _).symm

/-- A dot inside a frame draws its row, if it draws one, after those that are drawn. -/
theorem Running.rowsDrawn_tick (running : lcd.Running) (more : lcd.completesFrame = false) :
    lcd.tick.1.rowsDrawn = lcd.rowsDrawn ++ lcd.nextRow?.toList := by
  have inside := (not_congr running.completesFrame_iff).mp (Bool.eq_false_iff.mp more)
  have result := running.dotResult
  have enabled := running.enabled
  generalize lcd.tick = after at result
  cases result with
  | counted early =>
      have silent : lcd.nextRow? = none := by
        apply nextRow?_eq_none
        intro draws
        rw [draws.1] at early
        exact Nat.ne_of_lt early draws.2
      exact rowsDrawn_of_silent silent rfl rfl
  | scanned mode last visible =>
      have lines : lcd.linesDrawn = lcd.line := by rw [linesDrawn, mode]
      exact rowsDrawn_of_silent (nextRow?_eq_none (by simp [mode])) rfl lines.symm
  | drawn mode last visible =>
      have lines : lcd.linesDrawn = lcd.line := by rw [linesDrawn, mode]
      have draws : lcd.nextRow? = some lcd.lineRow := if_pos ⟨enabled, mode, last⟩
      have same : ({ lcd with dot := lcd.dot + 1 } : Lcd).lineRow = lcd.lineRow :=
        lineRow_congr rfl rfl rfl rfl rfl
      rw [draws, rowsDrawn, rowsDrawn, lines]
      simp only [fst_enter, drawLine, dif_pos visible, linesDrawn, same]
      exact take_setRow lcd.drawn visible lcd.lineRow
  | nextLine mode last visible =>
      have lines : lcd.linesDrawn = lcd.line + 1 := by rw [linesDrawn, mode]
      exact rowsDrawn_of_silent (nextRow?_eq_none (by simp [mode])) rfl lines.symm
  | blanked mode last lowest =>
      have lines : lcd.linesDrawn = screenHeight := by rw [linesDrawn, mode, ← lowest]
      exact rowsDrawn_of_silent (nextRow?_eq_none (by simp [mode])) rfl lines.symm
  | nextBlankLine mode last below =>
      have lines : ({ lcd with dot := 0, line := lcd.line + 1 } : Lcd).updateStat.1.linesDrawn =
          lcd.linesDrawn := by
        rw [linesDrawn, linesDrawn, fst_updateStat, mode]
      exact rowsDrawn_of_silent (nextRow?_eq_none (by simp [mode])) rfl lines
  | nextFrame mode last lowest => exact absurd ⟨lowest, last⟩ inside

/-- The dot that completes a frame shows it. All its rows are drawn then, and none of the
next. -/
theorem Running.rowsDrawn_of_completes (running : lcd.Running)
    (completes : lcd.completesFrame = true) :
    lcd.tick.1.shown.rows.toList = lcd.rowsDrawn ∧ lcd.tick.1.rowsDrawn = [] := by
  obtain ⟨lowest, last⟩ := running.completesFrame_iff.mp completes
  have below : screenHeight ≤ lcd.line := by
    simp only [frameEnd, screenHeight] at lowest ⊢
    omega
  have mode : lcd.mode = .vblank := by
    have scheduled := running.covered.eq_modeAt
    rwa [modeAt, if_pos below] at scheduled
  have exchanged := running.shown_tick
  rw [if_pos ⟨lowest, last⟩] at exchanged
  have line : lcd.tick.1.line = 0 := by
    rw [running.line_tick, if_pos last, lowest, Nat.mod_self]
  have dot : lcd.tick.1.dot = 0 := by rw [running.dot_tick, last, Nat.mod_self]
  have fresh : lcd.tick.1.mode = .oamScan := by
    have scheduled := running.tick.covered.eq_modeAt
    rw [line, dot] at scheduled
    exact scheduled
  constructor
  · rw [exchanged.1, rowsDrawn, linesDrawn, mode]
    exact (List.take_of_length_le (by simp)).symm
  · rw [rowsDrawn, linesDrawn, fresh, line]
    rfl

/-- The rows drawn since the frame began are those of the frame under way. Nothing is said of a
dark screen. -/
structure Fresh (rows : List Row) (lcd : Lcd) : Prop where
  running : lcd.enabled = true → lcd.Running
  rows : lcd.enabled = true → lcd.rowsDrawn = rows

theorem Fresh.of_dark {rows : List Row} (dark : lcd.enabled = false) : Fresh rows lcd := by
  constructor
  · intro lit
    exact nomatch dark.symm.trans lit
  · intro lit
    exact nomatch dark.symm.trans lit

theorem begins_dotChange (running : lcd.enabled = true → lcd.Running) (date : Nat) :
    (lcd.dotChange date).begins = lcd.completesFrame := by
  have same := enabled_tick running
  simp only [Change.begins, Change.completes, dotChange, same]
  cases lcd.enabled <;> simp

/-- A dot draws its row, or shows the frame when all its rows are drawn. -/
theorem Fresh.tick {rows : List Row} (fresh : Fresh rows lcd) (date : Nat) :
    Fresh ((lcd.dotChange date).rowsAfter rows) lcd.tick.1 ∧
      (lcd.completesFrame = true → lcd.tick.1.shown.rows.toList = rows) ∧
      (lcd.completesFrame = false → lcd.tick.1.shown = lcd.shown) := by
  rw [Change.rowsAfter, begins_dotChange fresh.running]
  cases enabled : lcd.enabled with
  | false =>
      have dark : lcd.tick.1.enabled = false := by rw [tick_of_disabled enabled, enabled]
      refine ⟨.of_dark dark, ?_, ?_⟩
      · intro completes
        exact nomatch (completesFrame_of_disabled enabled).symm.trans completes
      · rw [tick_of_disabled enabled]
        exact fun _ => rfl
  | true =>
      have running := fresh.running enabled
      have rows := fresh.rows enabled
      cases completes : lcd.completesFrame with
      | true =>
          obtain ⟨shown, none⟩ := running.rowsDrawn_of_completes completes
          exact ⟨⟨fun _ => running.tick, fun _ => none⟩, fun _ => shown.trans rows, nofun⟩
      | false =>
          have more := (not_congr running.at.completesFrame_iff).mp (Bool.eq_false_iff.mp completes)
          refine ⟨⟨fun _ => running.tick, fun _ => ?_⟩, nofun, fun _ => ?_⟩
          · exact rows ▸ running.rowsDrawn_tick completes
          · exact (running.at.sameFrame_tick more).shown

theorem enabled_writeControl (lcd : Lcd) (value : Byte) :
    (lcd.writeControl value).1.enabled = value.bit 7 := by
  simp only [writeControl]
  split
  · rfl
  · split <;> rfl

/-- Only the control register switches the screen. -/
theorem control_of_switched {action : Action} (instant : ∀ dots, action ≠ .run dots)
    (switched : (lcd.perform action).1.enabled ≠ lcd.enabled) :
    ∃ value, action = .write .control value := by
  cases action with
  | run dots => exact absurd rfl (instant dots)
  | write register value =>
      cases register with
      | control => exact ⟨value, rfl⟩
      | _ => exact absurd rfl switched
  | writeVram offset value =>
      refine absurd ?_ switched
      simp only [perform, writeVram]
      split <;> rfl
  | writeOam offset value =>
      refine absurd ?_ switched
      simp only [perform, writeOam]
      split <;> rfl
  | transfer oam => exact absurd rfl switched

theorem keepsOn_of_lit {action : Action} (lit : (lcd.perform action).1.enabled = true) :
    action.KeepsOn := by
  cases action with
  | run | writeVram | writeOam | transfer => trivial
  | write register value =>
      cases register with
      | control => exact (lcd.enabled_writeControl value).symm.trans lit
      | _ => trivial

theorem rowsAfter_instantChange (rows : List Row) (date : Nat) (action : Action) :
    (lcd.instantChange date action).rowsAfter rows =
      if !lcd.enabled && (lcd.perform action).1.enabled then [] else rows := by
  simp [Change.rowsAfter, Change.begins, Change.completes, Change.row?, instantChange]

/-- What is written draws nothing. The screen may go dark, or light up with no row drawn. -/
theorem Fresh.perform {rows : List Row} (fresh : Fresh rows lcd) {action : Action}
    (instant : ∀ dots, action ≠ .run dots) (date : Nat) :
    Fresh ((lcd.instantChange date action).rowsAfter rows) (lcd.perform action).1 := by
  rw [rowsAfter_instantChange]
  cases lit : (lcd.perform action).1.enabled with
  | false => exact .of_dark lit
  | true =>
      cases enabled : lcd.enabled with
      | true =>
          have running := fresh.running enabled
          have same := samePlace_perform enabled (keepsOn_of_lit lit) instant
          have lines : (lcd.perform action).1.linesDrawn = lcd.linesDrawn := by
            rw [linesDrawn, linesDrawn, same.mode, same.line]
          refine ⟨fun _ => (running.at.of_samePlace same).running, fun _ => ?_⟩
          rw [rowsDrawn, (lcd.frames_perform instant).2, lines]
          exact fresh.rows enabled
      | false =>
          have switched : (lcd.perform action).1.enabled ≠ lcd.enabled := by
            rw [lit, enabled]
            decide
          obtain ⟨value, rfl⟩ := control_of_switched instant switched
          have on : value.bit 7 = true := keepsOn_of_lit lit
          have start := (JustLit.switchedOn lcd value enabled on).at_zero
          refine ⟨fun _ => start.running, fun _ => ?_⟩
          rw [Lcd.perform, write, fst_writeControl_of_off enabled on]
          rfl

/-! ## Histories -/

/-- Every frame that a history completes has the rows that were drawn since it began. -/
theorem Leads.drawings {rows : List Row} {changes : List Change} {final : Lcd}
    (leads : Leads lcd changes final) (fresh : Fresh rows lcd) :
    drawings rows changes =
      (published changes).map fun shown => (shown.1, shown.2.rows.toList) := by
  induction leads generalizing rows with
  | nil => rfl
  | @dot date lcd final changes rest ih =>
      -- The rows are those drawn before this dot, and if it completes the frame all of them.
      obtain ⟨next, exchange, -⟩ := fresh.tick date
      rw [Lcd.drawings, ih next, published, published, List.filter_cons]
      cases completes : lcd.completesFrame with
      | true =>
          have shown : (lcd.dotChange date).completes = true := completes
          rw [if_pos shown, if_pos shown, List.map_cons, List.map_cons, ← exchange completes]
          rfl
      | false =>
          have none : ¬ (lcd.dotChange date).completes = true := Bool.eq_false_iff.mp completes
          rw [if_neg none, if_neg none]
          rfl
  | @instant date lcd final action instant changes rest ih =>
      have next := fresh.perform instant date
      exact ih next

/-- What is shown at the end was published last, or is the frame of the start. -/
theorem Leads.shown {rows : List Row} {changes : List Change} {final : Lcd}
    (leads : Leads lcd changes final) (fresh : Fresh rows lcd) :
    final.shown = ((published changes).map Prod.snd).getLastD lcd.shown := by
  induction leads generalizing rows with
  | nil => rfl
  | @dot date lcd final changes rest ih =>
      obtain ⟨next, -, keeps⟩ := fresh.tick date
      rw [ih next, published, published, List.filter_cons]
      cases completes : lcd.completesFrame with
      | true =>
          have shown : (lcd.dotChange date).completes = true := completes
          rw [if_pos shown, List.map_cons, List.map_cons, List.getLastD_cons]
          rfl
      | false =>
          have none : ¬ (lcd.dotChange date).completes = true := Bool.eq_false_iff.mp completes
          rw [if_neg none, keeps completes]
  | @instant date lcd final action instant changes rest ih =>
      have same := (lcd.sameFrame_perform instant).shown
      rw [ih (fresh.perform instant date), same]
      rfl

/-! ## What the frames hold at the start -/

/-- The controller with both frames blank. -/
def unpainted (lcd : Lcd) : Lcd := { lcd with shown := .blank, drawn := .blank }

/-- The change with all frames blank. -/
def Change.unpainted (change : Change) : Change :=
  { change with before := change.before.unpainted, after := change.after.unpainted }

/-- A dot does not look at the frames. -/
theorem unpainted_tick (lcd : Lcd) :
    lcd.unpainted.tick.1.unpainted = lcd.tick.1.unpainted ∧
      lcd.unpainted.tick.2 = lcd.tick.2 := by
  cases enabled : lcd.enabled with
  | false =>
      have dark : lcd.unpainted.enabled = false := enabled
      rw [tick_of_disabled enabled, tick_of_disabled dark]
      exact ⟨rfl, rfl⟩
  | true =>
      have lit : lcd.unpainted.enabled = true := enabled
      have dot : lcd.unpainted.dot = lcd.dot := rfl
      have line : lcd.unpainted.line = lcd.line := rfl
      cases mode : lcd.mode with
      | oamScan | transfer =>
          have same : lcd.unpainted.mode = _ := mode
          simp only [tick, enabled, lit, if_true, dot, mode, same]
          split <;> exact ⟨rfl, rfl⟩
      | hblank =>
          have same : lcd.unpainted.mode = .hblank := mode
          simp only [tick, enabled, lit, if_true, dot, mode, same, nextLine, line]
          split
          · split <;> exact ⟨rfl, rfl⟩
          · exact ⟨rfl, rfl⟩
      | vblank =>
          have same : lcd.unpainted.mode = .vblank := mode
          simp only [tick, enabled, lit, if_true, dot, mode, same, nextBlankLine, line]
          split
          · split <;> exact ⟨rfl, rfl⟩
          · exact ⟨rfl, rfl⟩

/-- Nor does what takes no time. -/
theorem unpainted_perform (lcd : Lcd) {action : Action} (instant : ∀ dots, action ≠ .run dots) :
    (lcd.unpainted.perform action).1.unpainted = (lcd.perform action).1.unpainted ∧
      (lcd.unpainted.perform action).2 = (lcd.perform action).2 := by
  cases action with
  | run dots => exact absurd rfl (instant dots)
  | write register value =>
      cases register with
      | control =>
          have enabled : lcd.unpainted.enabled = lcd.enabled := rfl
          have next : ({ lcd.unpainted with control := value } : Lcd).enabled =
            ({ lcd with control := value } : Lcd).enabled := rfl
          simp only [perform, write, writeControl, enabled, next]
          split
          · exact ⟨rfl, rfl⟩
          · split <;> exact ⟨rfl, rfl⟩
      | _ => exact ⟨rfl, rfl⟩
  | writeVram offset value =>
      have accessible : lcd.unpainted.vramAccessible = lcd.vramAccessible := rfl
      simp only [perform, writeVram, accessible, and_true]
      split <;> rfl
  | writeOam offset value =>
      have accessible : lcd.unpainted.oamAccessible = lcd.oamAccessible := rfl
      simp only [perform, writeOam, accessible, and_true]
      split <;> rfl
  | transfer oam => exact ⟨rfl, rfl⟩

section

variable {first second : Lcd}

theorem dotChange_alike (same : first.unpainted = second.unpainted) (date : Nat) :
    (first.dotChange date).unpainted = (second.dotChange date).unpainted := by
  have left := first.unpainted_tick
  have right := second.unpainted_tick
  rw [same] at left
  simp only [Change.unpainted, dotChange, same, ← left.1, ← left.2, right.1, right.2]

theorem instantChange_alike (same : first.unpainted = second.unpainted) (date : Nat)
    {action : Action} (instant : ∀ dots, action ≠ .run dots) :
    (first.instantChange date action).unpainted =
      (second.instantChange date action).unpainted := by
  have left := first.unpainted_perform instant
  have right := second.unpainted_perform instant
  rw [same] at left
  simp only [Change.unpainted, instantChange, same, ← left.1, ← left.2, right.1, right.2]

theorem runChanges_alike (same : first.unpainted = second.unpainted) (elapsed dots : Nat) :
    (first.runChanges elapsed dots).map Change.unpainted =
        (second.runChanges elapsed dots).map Change.unpainted ∧
      (first.run dots).1.unpainted = (second.run dots).1.unpainted := by
  induction dots generalizing first second elapsed with
  | zero => exact ⟨rfl, same⟩
  | succ dots ih =>
      have change := dotChange_alike same (elapsed + 1)
      obtain ⟨rest, last⟩ := ih (congrArg Change.after change) (elapsed + 1)
      exact ⟨congrArg₂ List.cons change rest, last⟩

/-- Two histories of the same actions differ in the frames at most. -/
theorem changes_alike (same : first.unpainted = second.unpainted) (elapsed : Nat)
    (actions : List Action) :
    (first.changes elapsed actions).map Change.unpainted =
        (second.changes elapsed actions).map Change.unpainted ∧
      (first.performAll actions).unpainted = (second.performAll actions).unpainted := by
  induction actions generalizing first second elapsed with
  | nil => exact ⟨rfl, same⟩
  | cons action actions ih =>
      by_cases instant : ∀ dots, action ≠ .run dots
      · have change := instantChange_alike same elapsed instant
        obtain ⟨rest, last⟩ := ih (congrArg Change.after change) elapsed
        rw [changes_cons_of_instant first elapsed instant,
          changes_cons_of_instant second elapsed instant]
        exact ⟨congrArg₂ List.cons change rest, last⟩
      · obtain ⟨dots, rfl⟩ : ∃ dots, action = .run dots := by simpa using instant
        obtain ⟨early, arrived⟩ := runChanges_alike same elapsed dots
        obtain ⟨rest, last⟩ := ih arrived (elapsed + dots)
        rw [changes, changes, List.map_append, List.map_append, early, rest]
        exact ⟨rfl, last⟩

end

theorem completesFrame_unpainted (lcd : Lcd) :
    lcd.unpainted.completesFrame = lcd.completesFrame := by
  have same := congrArg Lcd.frameReady lcd.clearReady.unpainted_tick.1
  exact same

theorem nextRow?_unpainted (lcd : Lcd) : lcd.unpainted.nextRow? = lcd.nextRow? := by
  have row : lcd.unpainted.lineRow = lcd.lineRow := lineRow_congr rfl rfl rfl rfl rfl
  rw [nextRow?, row]
  rfl

theorem Change.completes_unpainted (change : Change) :
    change.unpainted.completes = change.completes :=
  congrArg (change.isDot && ·) change.before.completesFrame_unpainted

theorem Change.rowsAfter_unpainted (rows : List Row) (change : Change) :
    change.unpainted.rowsAfter rows = change.rowsAfter rows := by
  have begins : change.unpainted.begins = change.begins :=
    congrArg (· || (!change.before.enabled && change.after.enabled)) change.completes_unpainted
  have row : change.unpainted.row? = change.row? :=
    congrArg (if change.isDot then · else none) change.before.nextRow?_unpainted
  rw [rowsAfter, begins, row]
  rfl

/-- The rows that a history draws do not depend on what the frames hold. -/
theorem drawings_unpainted (rows : List Row) (changes : List Change) :
    drawings rows (changes.map Change.unpainted) = drawings rows changes := by
  induction changes generalizing rows with
  | nil => rfl
  | cons change changes ih =>
      rw [List.map_cons, drawings, drawings, ih, Change.completes_unpainted,
        Change.rowsAfter_unpainted]
      rfl

/-! ## The start of a frame -/

/-- The screen is on, at the first dot of a frame: it has just lit up, or the frame before has
just ended. -/
structure FrameStart (lcd : Lcd) : Prop where
  enabled : lcd.enabled = true
  line : lcd.line = 0
  dot : lcd.dot = 0
  mode : lcd.mode = .oamScan

theorem FrameStart.fresh (start : FrameStart lcd) : Fresh [] lcd := by
  refine ⟨fun _ => ⟨start.enabled, ?_⟩, fun _ => ?_⟩
  · rw [start.mode, start.line, start.dot]
    exact ⟨by decide, by decide⟩
  · rw [rowsDrawn, linesDrawn, start.mode, start.line]
    rfl

/-- Frames are known by their rows. -/
theorem injective_rows :
    Function.Injective fun shown : Nat × Frame => (shown.1, shown.2.rows.toList) := by
  rintro ⟨date, ⟨rows⟩⟩ ⟨other, ⟨others⟩⟩ same
  obtain ⟨dates, lists⟩ := Prod.mk.inj same
  have frames : rows = others := Vector.toList_inj.mp lists
  rw [frames]
  exact congrArg (·, _) dates

/-- No published frame holds a stale pixel. From the start of a frame, whatever is written
between the dots, and also if the screen goes off and on again, two controllers that differ in
their frames at most go on to differ in nothing else, and publish the same frames at the same
dots. Until then each shows its own old frame, and from then on both show the same. For each
published frame consists of the rows drawn since it began, all 144 of them. -/
theorem published_frames_fresh {first second : Lcd} (start : FrameStart first)
    (same : first.unpainted = second.unpainted) (actions : List Action) :
    let changes := first.changes 0 actions
    let others := second.changes 0 actions
    let left := first.performAll actions
    let right := second.performAll actions
    (changes.map Change.unpainted = others.map Change.unpainted ∧
        left.unpainted = right.unpainted) ∧
      published changes = published others ∧
      (published changes = [] → left.shown = first.shown ∧ right.shown = second.shown) ∧
      (published changes ≠ [] → left.shown = right.shown) ∧
      (published changes).map (fun shown => (shown.1, shown.2.rows.toList)) =
          drawings [] changes ∧
        ∀ drawn ∈ drawings [] changes, drawn.2.length = 144 := by
  intro changes others left right
  have alike := changes_alike same 0 actions
  have begins : FrameStart second :=
    ⟨(congrArg Lcd.enabled same).symm.trans start.enabled,
      (congrArg Lcd.line same).symm.trans start.line,
      (congrArg Lcd.dot same).symm.trans start.dot,
      (congrArg Lcd.mode same).symm.trans start.mode⟩
  have leads : Leads first changes left := leads_changes first 0 actions
  have follows : Leads second others right := leads_changes second 0 actions
  have drawn := leads.drawings start.fresh
  have redrawn := follows.drawings begins.fresh
  -- The frames are equal because they are made of drawn rows, and those are drawn from what
  -- the two controllers share.
  have frames : published changes = published others := by
    apply injective_rows.list_map
    rw [← drawn, ← redrawn, ← drawings_unpainted [] changes, alike.1, drawings_unpainted]
  refine ⟨alike, frames, ?_, ?_, drawn.symm, ?_⟩
  · intro none
    rw [leads.shown start.fresh, follows.shown begins.fresh, ← frames, none]
    exact ⟨rfl, rfl⟩
  · intro some
    rw [leads.shown start.fresh, follows.shown begins.fresh, ← frames]
    obtain ⟨shown, rest, split⟩ := List.exists_cons_of_ne_nil some
    rw [split, List.map_cons, List.getLastD_cons, List.getLastD_cons]
  · intro rows member
    rw [drawn] at member
    obtain ⟨shown, -, rfl⟩ := List.mem_map.mp member
    exact shown.2.rows.length_toList

/-! ## A frame that is broken off -/

theorem published_append (earlier later : List Change) :
    published (earlier ++ later) = published earlier ++ published later := by
  rw [published, List.filter_append, List.map_append]
  rfl

theorem published_eq_nil_of_append (earlier : List Change) {later : List Change}
    (none : published (earlier ++ later) = []) : published later = [] := by
  rw [published_append] at none
  exact (List.append_eq_nil_iff.mp none).2

/-- The frames that a run publishes are those that it completes. -/
theorem published_runChanges (lcd : Lcd) (elapsed dots : Nat) :
    (published (lcd.runChanges elapsed dots)).map Prod.snd = lcd.completedFrames dots := by
  induction dots generalizing lcd elapsed with
  | zero => rfl
  | succ dots ih =>
      have rest := ih lcd.tick.1 (elapsed + 1)
      rw [runChanges, published, List.filter_cons, completedFrames, ← rest]
      cases completes : lcd.completesFrame <;> simp [Change.completes, completes, published]

/-- If the screen goes off and on again, it publishes a frame as soon as there was time for
it. -/
theorem published_of_broken_off (lcd : Lcd) {off on : Byte} (dark : off.bit 7 = false)
    (lit : on.bit 7 = true) (before early late : Nat)
    (enough : frameDots ≤ early % frameDots + late) (short : late < frameDots) :
    published (lcd.changes 0
      [.run before, .write .control off, .write .control on, .run early, .run late]) ≠ [] := by
  intro none
  have instant (value : Byte) : ∀ dots, Action.write .control value ≠ .run dots := by
    intro dots same
    cases same
  have start := JustLit.switchedOn ((lcd.run before).1.writeControl off).1 on
    ((enabled_writeControl _ _).trans dark) lit
  have arrived := start.at_zero.run early
  rw [Nat.zero_add] at arrived
  obtain ⟨one, -⟩ := arrived.completedFrames_of_late enough short
  rw [changes] at none
  have switches := published_eq_nil_of_append _ none
  rw [changes_cons_of_instant _ _ (instant off), changes_cons_of_instant _ _ (instant on)]
    at switches
  have frame := published_eq_nil_of_append [_, _] switches
  rw [changes] at frame
  have ends := published_eq_nil_of_append _ frame
  simp only [changes, List.append_nil] at ends
  have silent := (congrArg (List.map Prod.snd) ends).symm.trans (published_runChanges _ _ late)
  exact List.cons_ne_nil _ _ (one.symm.trans silent.symm)

/-- The controller that a boot program leaves, but with dark frames. -/
def darkened : Lcd :=
  { afterBoot with
    shown := { rows := Vector.replicate screenHeight (Vector.replicate screenWidth 3) }
    drawn := { rows := Vector.replicate screenHeight (Vector.replicate screenWidth 3) } }

/-- Some dots, the screen off and on again, and the dots of a frame. -/
def interrupted : List Action :=
  [.run 100, .write .control 0x11, .write .control 0x91, .run 40000, .run 30224]

/-- After a frame that was broken off, the next one shows nothing of what the frames held at
the start. -/
theorem published_frames_fresh_of_interrupted :
    published (afterBoot.changes 0 interrupted) ≠ [] ∧ afterBoot.shown ≠ darkened.shown ∧
      (afterBoot.performAll interrupted).shown = (darkened.performAll interrupted).shown := by
  have start : FrameStart afterBoot := ⟨rfl, rfl, rfl, rfl⟩
  have same : afterBoot.unpainted = darkened.unpainted := rfl
  obtain ⟨-, -, -, shown, -⟩ := published_frames_fresh start same interrupted
  have some := published_of_broken_off afterBoot (by decide : Byte.bit 0x11 7 = false)
    (by decide : Byte.bit 0x91 7 = true) 100 40000 30224 (by decide) (by decide)
  exact ⟨some, by decide +kernel, shown some⟩

end GameBoy.Lcd
