import GameBoy.Proofs.Lcd.Scene
import GameBoy.Proofs.Lcd.Timeline

/-!
# The picture of a static scene

While nothing is written, the lines that a controller draws join into the picture
of its scene. What is kept from dot to dot is how far the picture has come: the
lines drawn so far, the rows of the window among them, and between the scan and
the drawing of a line the sprites of that line.
-/

namespace GameBoy

namespace Lcd

/-- Lines of the frame under way that are drawn. -/
def linesDrawn (lcd : Lcd) : Nat :=
  match lcd.mode with
  | .oamScan | .transfer => lcd.line
  | .hblank => lcd.line + 1
  | .vblank => screenHeight

/-- The rows of the window among the first lines. -/
def Scene.windowRows (scene : Scene) (lines : Nat) : Nat :=
  if scene.control.bit 0 = true ∧ scene.control.bit 5 = true ∧ scene.windowX.toNat ≤ 166 then
    lines - scene.windowY.toNat
  else 0

/-- The controller has drawn the scene as far as it has come. -/
structure Draws (scene : Scene) (lcd : Lcd) : Prop where
  running : lcd.Running
  same : lcd.scene = scene
  found : lcd.mode = .transfer →
    lcd.lineSprites = scene.lineSprites lcd.line ∧ lcd.lineSpritesTall = scene.tall
  windowLine : lcd.windowLine.toNat = scene.windowRows lcd.linesDrawn
  rows : ∀ x y, y.val < lcd.linesDrawn → (lcd.drawn.pixel x y).val = scene.pixel x y

/-! ## One line -/

theorem lineSprites_scanSprites (lcd : Lcd) :
    lcd.scanSprites.lineSprites = lcd.scene.lineSprites lcd.line := by
  have reaching : (fun index => (lcd.sprite index).onLine lcd.spritesTall lcd.line) =
      fun index => decide (lcd.scene.Reaches lcd.scene.tall index lcd.line) := by
    funext index
    rw [Bool.eq_iff_iff, decide_eq_true_eq]
    exact (lcd.reaches_scene _ index _).symm
  rw [scanSprites, reaching]
  rfl

/-- The window's row matters only where the window covers the background. -/
theorem Scene.layerColor_congr {scene : Scene} {row other x y : Nat}
    (same : scene.control.bit 0 = true → scene.WindowCovers x y → row = other) :
    scene.layerColor row x y = scene.layerColor other x y := by
  by_cases dark : scene.control.bit 0 = false
  · rw [layerColor, layerColor, if_pos dark, if_pos dark]
  · by_cases covers : scene.WindowCovers x y
    · rw [same (Bool.eq_true_of_not_eq_false dark) covers]
    · rw [layerColor, layerColor, if_neg covers, if_neg covers]

/-- With the line's sprites and as many rows of the window as there were lines below
its start, a line shows the scene. -/
theorem Scene.linePixel_eq_pixel (scene : Scene) (x y : Nat) :
    scene.linePixel (scene.lineSprites y) scene.tall (scene.windowRows y) x y =
      scene.pixel x y := by
  have below : scene.layerColor (scene.windowRows y) x y =
      scene.layerColor (y - scene.windowY.toNat) x y := by
    refine layerColor_congr fun lit covers => ?_
    rw [windowRows, if_pos ⟨lit, covers.1, covers.2.2.1⟩]
  rw [pixel, linePixel, linePixel, below]

theorem windowVisible_iff (lcd : Lcd) :
    lcd.windowVisible = true ↔
      (lcd.scene.control.bit 0 = true ∧ lcd.scene.control.bit 5 = true ∧
        lcd.scene.windowX.toNat ≤ 166) ∧ lcd.scene.windowY.toNat ≤ lcd.line := by
  simp only [windowVisible, Bool.and_eq_true, decide_eq_true_eq]
  constructor
  · rintro ⟨⟨⟨lit, enabled⟩, reached⟩, left⟩
    exact ⟨⟨lit, enabled, left⟩, reached⟩
  · rintro ⟨⟨lit, enabled, left⟩, reached⟩
    exact ⟨⟨⟨lit, enabled⟩, reached⟩, left⟩

/-- Drawing a line counts its row of the window. -/
theorem windowLine_drawLine (lcd : Lcd) (visible : lcd.line < screenHeight)
    (counted : lcd.windowLine.toNat = lcd.scene.windowRows lcd.line) :
    lcd.drawLine.windowLine.toNat = lcd.scene.windowRows (lcd.line + 1) := by
  have shown := lcd.windowVisible_iff
  simp only [screenHeight] at visible
  rw [Scene.windowRows] at counted ⊢
  simp only [drawLine]
  by_cases possible : lcd.scene.control.bit 0 = true ∧ lcd.scene.control.bit 5 = true ∧
      lcd.scene.windowX.toNat ≤ 166
  · rw [if_pos possible] at counted ⊢
    by_cases reached : lcd.scene.windowY.toNat ≤ lcd.line
    · rw [if_pos (shown.mpr ⟨possible, reached⟩), UInt8.toNat_add, counted]
      simp only [UInt8.reduceToNat]
      omega
    · rw [if_neg fun drawn => reached (shown.mp drawn).2, counted]
      omega
  · rw [if_neg possible] at counted ⊢
    rw [if_neg fun drawn => possible (shown.mp drawn).1, counted]

/-- Drawing a line completes the picture by that line. -/
theorem pixel_drawLine (lcd : Lcd) (visible : lcd.line < screenHeight)
    (found : lcd.lineSprites = lcd.scene.lineSprites lcd.line)
    (tall : lcd.lineSpritesTall = lcd.scene.tall)
    (counted : lcd.windowLine.toNat = lcd.scene.windowRows lcd.line)
    (rows : ∀ x y, y.val < lcd.line → (lcd.drawn.pixel x y).val = lcd.scene.pixel x y)
    (x : Fin screenWidth) (y : Fin screenHeight) (reached : y.val < lcd.line + 1) :
    (lcd.drawLine.drawn.pixel x y).val = lcd.scene.pixel x y := by
  simp only [drawLine, dif_pos visible, Frame.pixel_setRow]
  by_cases now : (⟨lcd.line, visible⟩ : Fin screenHeight) = y
  · rw [if_pos now, Fin.getElem_fin, val_lineRow, found, tall, counted,
      Scene.linePixel_eq_pixel, ← now]
  · rw [if_neg now]
    have other : lcd.line ≠ y.val := fun same => now (Fin.ext same)
    exact rows x y (by omega)

/-! ## One frame -/

/-- A dot that does not end the frame keeps to the scene. -/
theorem Draws.tick {scene : Scene} {lcd : Lcd} (draws : Draws scene lcd)
    (more : ¬(lcd.line + 1 = frameEnd ∧ lcd.dot + 1 = lineEnd)) :
    Draws scene lcd.tick.1 := by
  have next := draws.running.tick
  have result := draws.running.dotResult
  obtain ⟨running, rfl, found, windowLine, rows⟩ := draws
  generalize lcd.tick = after at result next
  cases result with
  | counted early => exact ⟨next, rfl, found, windowLine, rows⟩
  | scanned mode last visible =>
      have lines : lcd.linesDrawn = lcd.line := by rw [linesDrawn, mode]
      rw [lines] at windowLine rows
      refine ⟨next, rfl, fun _ => ⟨?_, rfl⟩, windowLine, rows⟩
      exact lineSprites_scanSprites { lcd with dot := lcd.dot + 1 }
  | drawn mode last visible =>
      have lines : lcd.linesDrawn = lcd.line := by rw [linesDrawn, mode]
      rw [lines] at windowLine rows
      obtain ⟨found, tall⟩ := found mode
      refine ⟨next, rfl, nofun, ?_, ?_⟩
      · exact windowLine_drawLine { lcd with dot := lcd.dot + 1 } visible windowLine
      · exact pixel_drawLine { lcd with dot := lcd.dot + 1 } visible found tall windowLine rows
  | nextLine mode last visible =>
      have lines : lcd.linesDrawn = lcd.line + 1 := by rw [linesDrawn, mode]
      rw [lines] at windowLine rows
      exact ⟨next, rfl, nofun, windowLine, rows⟩
  | blanked mode last lowest =>
      have lines : lcd.linesDrawn = screenHeight := by rw [linesDrawn, mode, ← lowest]
      rw [lines] at windowLine rows
      exact ⟨next, rfl, nofun, windowLine, rows⟩
  | nextBlankLine mode last below inside =>
      have lines : lcd.linesDrawn = screenHeight := by rw [linesDrawn, mode]
      rw [lines] at windowLine rows
      have same : ({ lcd with dot := 0, line := lcd.line + 1 } : Lcd).updateStat.1.linesDrawn =
          screenHeight := by
        rw [linesDrawn, fst_updateStat, mode]
      refine ⟨next, rfl, ?_, ?_, ?_⟩
      · intro transferring
        exact nomatch mode.symm.trans transferring
      · rw [same]
        exact windowLine
      · rw [same]
        exact rows
  | nextFrame mode last lowest => exact absurd ⟨lowest, last⟩ more

theorem Draws.run {scene : Scene} {lcd : Lcd} {elapsed : Nat} (here : lcd.At elapsed)
    (draws : Draws scene lcd) (dots : Nat) (within : elapsed + dots < 70224) :
    Draws scene (lcd.run dots).1 := by
  induction dots generalizing lcd elapsed with
  | zero => exact draws
  | succ dots ih =>
      have more : ¬(lcd.line + 1 = frameEnd ∧ lcd.dot + 1 = lineEnd) := by
        rw [← here.frame_iff]
        exact Nat.not_dvd_of_pos_of_lt (Nat.succ_pos elapsed)
          (by simp only [frameDots, frameEnd, lineEnd]; omega)
      exact ih here.tick (draws.tick more) (by omega)

@[simp] theorem Scene.windowRows_zero (scene : Scene) : scene.windowRows 0 = 0 := by
  rw [windowRows, Nat.zero_sub, ite_self]

/-- A screen that was just switched on has drawn its scene as far as it has come. -/
theorem draws_writeControl {lcd : Lcd} {control : Byte} (off : lcd.enabled = false)
    (on : control.bit 7 = true) :
    Draws { lcd with control }.scene (lcd.writeControl control).1 := by
  have running := (JustLit.switchedOn lcd control off on).at_zero.running
  rw [fst_writeControl_of_off off on] at running ⊢
  exact ⟨running, rfl, nofun, (Scene.windowRows_zero _).symm, nofun⟩

/-- The dot that ends a frame shows what was drawn in it. -/
theorem Draws.nextFrame {scene : Scene} {lcd : Lcd} (draws : Draws scene lcd)
    (ends : lcd.line + 1 = frameEnd ∧ lcd.dot + 1 = lineEnd) :
    lcd.tick.1.frameReady = true ∧
      ∀ (x : Fin screenWidth) (y : Fin screenHeight),
        (lcd.tick.1.shown.pixel x y).val = scene.pixel x y := by
  have exchanged := draws.running.shown_tick
  rw [if_pos ends] at exchanged
  obtain ⟨shown, -, ready⟩ := exchanged
  have below : screenHeight ≤ lcd.line := by
    simp only [frameEnd, screenHeight] at ends ⊢
    omega
  have mode := draws.running.covered.eq_modeAt
  rw [modeAt, if_pos below] at mode
  refine ⟨ready, fun x y => ?_⟩
  rw [shown]
  refine draws.rows x y ?_
  rw [linesDrawn, mode]
  exact y.isLt

/-- A static scene is shown as its picture. From a dark screen in any state, once it
is switched on and nothing else is written for the dots of a frame, a frame is
ready and each of its pixels is that of the scene. -/
theorem run_static_scene (lcd : Lcd) (control : Byte) (off : lcd.enabled = false)
    (on : control.bit 7 = true) :
    let scene := { lcd with control }.scene
    let final := ((lcd.write .control control).1.run 70224).1
    final.frameReady = true ∧
      ∀ (x : Fin screenWidth) (y : Fin screenHeight),
        (final.shown.pixel x y).val = scene.pixel x y := by
  have start := (JustLit.switchedOn lcd control off on).at_zero
  have before_at := start.run 70223
  have before_draws := (draws_writeControl off on).run start 70223 (by decide)
  have ends := before_at.frame_iff.mp (by decide)
  rw [write, fst_run_succ _ 70223]
  exact before_draws.nextFrame ends

/-- With the first tile everywhere, of which only the upper left pixel is colored,
the screen shows a grid of points. -/
theorem run_static_scene_of_one_point :
    let lcd : Lcd := { vram := (Vector.replicate 0x2000 0).set 0 0x80, backgroundPalette := 0xE4 }
    let final := ((lcd.write .control 0x91).1.run 70224).1
    final.frameReady = true ∧
      final.shown.pixel ⟨8, by decide⟩ ⟨16, by decide⟩ = 1 ∧
        final.shown.pixel ⟨9, by decide⟩ ⟨16, by decide⟩ = 0 := by
  have shown := run_static_scene
    { vram := (Vector.replicate 0x2000 0).set 0 0x80, backgroundPalette := 0xE4 } 0x91
    (by decide) (by decide)
  refine ⟨shown.1, Fin.ext ((shown.2 ⟨8, by decide⟩ ⟨16, by decide⟩).trans ?_),
    Fin.ext ((shown.2 ⟨9, by decide⟩ ⟨16, by decide⟩).trans ?_)⟩
  · decide +kernel
  · decide +kernel

end Lcd

end GameBoy
