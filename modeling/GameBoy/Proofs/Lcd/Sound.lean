import GameBoy.Proofs.Lcd.Schedule

/-!
# States of the controller that occur

A dark controller rests at the start of its schedule, a lit one stands in the
rectangle of its mode, and no line has more than ten sprites. Whatever is done to
a controller keeps this.
-/

namespace GameBoy.Lcd

/-- The controller is in a state that can occur. -/
structure Sound (lcd : Lcd) : Prop where
  dark : lcd.enabled = false → lcd.line = 0 ∧ lcd.dot = 0 ∧ lcd.mode = .hblank
  lit : lcd.enabled = true → lcd.mode.Covers lcd.line lcd.dot
  few : lcd.lineSprites.length ≤ spritesPerLine

/-- A lit controller in such a state keeps the schedule. -/
theorem Sound.running {lcd : Lcd} (sound : lcd.Sound) (enabled : lcd.enabled = true) :
    lcd.Running :=
  ⟨enabled, sound.lit enabled⟩

/-- A controller that keeps the schedule is in such a state, if it has few sprites. -/
theorem Running.sound {lcd : Lcd} (running : lcd.Running)
    (few : lcd.lineSprites.length ≤ spritesPerLine) : lcd.Sound := by
  refine ⟨fun disabled => ?_, fun _ => running.covered, few⟩
  rw [running.enabled] at disabled
  exact absurd disabled Bool.noConfusion

theorem sound_new : Sound {} :=
  ⟨fun _ => ⟨rfl, rfl, rfl⟩, (nomatch ·), Nat.zero_le _⟩

theorem sound_afterBoot : Sound .afterBoot :=
  ⟨(nomatch ·), fun _ => ⟨by decide, by decide⟩, Nat.zero_le _⟩

namespace Sound

variable {lcd : Lcd}

/-- Only a scan changes the sprites of a line, and it takes the first ten. -/
theorem few_tick (sound : lcd.Sound) : lcd.tick.1.lineSprites.length ≤ spritesPerLine := by
  by_cases enabled : lcd.enabled = true
  · have few := sound.few
    have result := (sound.running enabled).dotResult
    generalize lcd.tick = after at result
    cases result with
    | counted | nextLine | blanked | nextBlankLine | nextFrame => exact few
    | drawn => exact few
    | scanned =>
        simp only [fst_enter, scanSprites]
        exact List.length_take_le _ _
  · rw [tick_of_disabled ((Bool.not_eq_true _).mp enabled)]
    exact sound.few

theorem tick (sound : lcd.Sound) : lcd.tick.1.Sound := by
  by_cases enabled : lcd.enabled = true
  · exact (sound.running enabled).tick.sound sound.few_tick
  · rw [tick_of_disabled ((Bool.not_eq_true _).mp enabled)]
    exact sound

theorem run (sound : lcd.Sound) (dots : Nat) : (lcd.run dots).1.Sound := by
  induction dots generalizing lcd with
  | zero => exact sound
  | succ dots ih => exact ih sound.tick

theorem writeVram (sound : lcd.Sound) (offset : Fin 0x2000) (value : Byte) :
    (lcd.writeVram offset value).Sound := by
  unfold Lcd.writeVram
  split
  · exact ⟨sound.dark, sound.lit, sound.few⟩
  · exact sound

theorem writeOam (sound : lcd.Sound) (offset : Fin 0xA0) (value : Byte) :
    (lcd.writeOam offset value).Sound := by
  unfold Lcd.writeOam
  split
  · exact ⟨sound.dark, sound.lit, sound.few⟩
  · exact sound

theorem transfer (sound : lcd.Sound) (oam : Vector Byte 0xA0) : { lcd with oam }.Sound :=
  ⟨sound.dark, sound.lit, sound.few⟩

theorem clearReady (sound : lcd.Sound) : lcd.clearReady.Sound :=
  ⟨sound.dark, sound.lit, sound.few⟩

/-- Switching the screen off brings the controller to rest, switching it on to the
start of a frame. -/
theorem writeControl (sound : lcd.Sound) (value : Byte) :
    (lcd.writeControl value).1.Sound := by
  have value_eq : ({ lcd with control := value } : Lcd).enabled = value.bit 7 := rfl
  simp only [Lcd.writeControl, value_eq]
  cases before : lcd.enabled with
  | true =>
      cases now : value.bit 7 with
      | true =>
          exact ⟨fun off => (nomatch now.symm.trans off), fun _ => sound.lit before, sound.few⟩
      | false =>
          exact ⟨fun _ => ⟨rfl, rfl, rfl⟩, fun on => (nomatch now.symm.trans on), sound.few⟩
  | false =>
      cases now : value.bit 7 with
      | true =>
          exact ⟨fun off => (nomatch now.symm.trans off),
            fun _ => ⟨(by decide : 0 < screenHeight), (by decide : 0 < scanEnd)⟩, sound.few⟩
      | false =>
          exact ⟨fun _ => sound.dark before, fun on => (nomatch now.symm.trans on), sound.few⟩

theorem write (sound : lcd.Sound) (register : Register) (value : Byte) :
    (lcd.write register value).1.Sound := by
  cases register with
  | control => exact sound.writeControl value
  | _ => exact ⟨sound.dark, sound.lit, sound.few⟩

end Sound

end GameBoy.Lcd
