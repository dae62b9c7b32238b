import GameBoy.Proofs.Console.Buttons
import GameBoy.Proofs.Console.Polling

/-!
# Writing back what was read

Most registers of the devices can be read and written back without any effect, although some of
them show bits that are not their own: bits that always read as one, the mode of the screen and
the coincidence of its lines, the lines of the buttons. A write drops those bits, and what
remains is what the register holds already. Two registers look at the interrupt line of the
screen when they are written; it does not rise then, because it is up to date on every board
that occurs.
-/

namespace GameBoy

open Cpu Memory

/-- Bits that read as one are dropped again. -/
theorem Byte.or_not_and (byte mask : Byte) : (byte ||| ~~~mask) &&& mask = byte &&& mask := by
  have unused : ~~~mask &&& mask = 0 := by
    refine ext_bit fun index inside => ?_
    have clear : Byte.bit 0 index = false := Nat.zero_testBit index
    rw [bit_and, bit_not mask inside, Bool.not_and_self, clear]
  rw [and_or_distrib_right, unused, UInt8.or_zero]

/-! ## The devices -/

namespace Joypad

variable {joypad : Joypad}

theorem Narrow.input (narrow : joypad.Narrow) (input : Input) : (joypad.input input).Narrow := by
  cases input with
  | button button pressed =>
      simp only [Joypad.input, setButton_eq, modifyGroup]
      split <;> exact narrow
  | select value => exact (UInt8.and_assoc value _ _).trans (congrArg _ (UInt8.and_self))

theorem Narrow.write_read (narrow : joypad.Narrow) : joypad.write joypad.read = joypad := by
  have fixed : (0xC0 : Byte) &&& selectBits = 0 := rfl
  have low (lines : Byte) : 0x0F &&& lines &&& selectBits = 0 := by
    rw [UInt8.and_comm 0x0F, UInt8.and_assoc]
    exact UInt8.and_zero
  have kept : joypad.read &&& selectBits = joypad.select := by
    simp only [read, Byte.and_or_distrib_right, fixed, low, UInt8.zero_or, UInt8.or_zero]
    exact narrow
  rw [write, kept]

end Joypad

namespace Timer

/-- The control register holds the bits that exist, and no others. -/
def Narrow (timer : Timer) : Prop := timer.control &&& controlBits = timer.control

variable {timer : Timer}

theorem control_run (timer : Timer) (cycles : Nat) :
    (timer.run cycles).1.control = timer.control := by
  induction cycles generalizing timer with
  | zero => rfl
  | succ cycles ih => exact (ih timer.tick.1).trans timer.control_tick

theorem Narrow.writeRegister (narrow : timer.Narrow) (value : Byte) (register : Register) :
    (timer.writeRegister value register).Narrow := by
  cases register with
  | divider =>
      rw [Narrow, Timer.writeRegister, resetDivider, control_countEdge]
      exact narrow
  | count =>
      simp only [Timer.writeRegister, writeCount]
      split <;> exact narrow
  | modulo =>
      simp only [Timer.writeRegister, writeModulo]
      split <;> exact narrow
  | control =>
      rw [Narrow, Timer.writeRegister, writeControl, control_countEdge, UInt8.and_assoc,
        UInt8.and_self]

theorem Narrow.run (narrow : timer.Narrow) (cycles : Nat) : (timer.run cycles).1.Narrow := by
  rw [Narrow, control_run]
  exact narrow

/-- The signal is as before, so no edge is counted. -/
theorem Narrow.writeControl_readControl (narrow : timer.Narrow) :
    timer.writeControl timer.readControl = timer := by
  have same : timer.readControl &&& controlBits = timer.control := by
    rw [readControl, Byte.or_not_and]
    exact narrow
  rw [writeControl, same, countEdge, Bool.and_not_self]
  rfl

end Timer

namespace Lcd

/-- The status register holds the conditions that can be chosen, and no other bits. -/
def Narrow (lcd : Lcd) : Prop := lcd.statSelect &&& statBits = lcd.statSelect

variable {lcd : Lcd}

/-- No dot chooses a condition. -/
theorem statSelect_tick (sound : lcd.Sound) : lcd.tick.1.statSelect = lcd.statSelect := by
  cases enabled : lcd.enabled with
  | false => rw [tick_of_disabled enabled]
  | true =>
      have result := (sound.running enabled).dotResult
      generalize lcd.tick = after at result
      cases result <;> rfl

theorem statSelect_run (sound : lcd.Sound) (dots : Nat) :
    (lcd.run dots).1.statSelect = lcd.statSelect := by
  induction dots generalizing lcd with
  | zero => rfl
  | succ dots ih => exact (ih sound.tick).trans (statSelect_tick sound)

theorem Narrow.perform (narrow : lcd.Narrow) (sound : lcd.Sound) (action : Action) :
    (lcd.perform action).1.Narrow := by
  cases action with
  | run dots =>
      rw [Narrow, Lcd.perform, statSelect_run sound]
      exact narrow
  | write register value =>
      cases register with
      | control =>
          simp only [Lcd.perform, Lcd.write, Lcd.writeControl]
          split
          · exact narrow
          · split <;> exact narrow
      | status => exact (UInt8.and_assoc value _ _).trans (congrArg _ UInt8.and_self)
      | _ => exact narrow
  | writeVram offset value =>
      simp only [Lcd.perform, Lcd.writeVram]
      split <;> exact narrow
  | writeOam offset value =>
      simp only [Lcd.perform, Lcd.writeOam]
      split <;> exact narrow
  | transfer oam => exact narrow

/-- The mode and the coincidence are no conditions. -/
theorem Narrow.status_and_statBits (narrow : lcd.Narrow) :
    lcd.status &&& statBits = lcd.statSelect := by
  have fixed : (0x80 : Byte) &&& statBits = 0 := rfl
  have coincidence : (if lcd.coincides then 0x04 else 0 : Byte) &&& statBits = 0 := by
    split <;> rfl
  have mode : lcd.mode.code &&& statBits = 0 := by
    cases lcd.mode <;> rfl
  simp only [status, Byte.and_or_distrib_right, fixed, coincidence, mode, UInt8.zero_or,
    UInt8.or_zero]
  exact narrow

/-- Looking at the conditions once more changes nothing where the line is up to date. -/
theorem LineCurrent.updateStat (current : lcd.LineCurrent) : lcd.updateStat = (lcd, []) := by
  rw [LineCurrent] at current
  rw [Lcd.updateStat, ← current, Bool.and_not_self]
  rfl

theorem write_read (narrow : lcd.Narrow) (current : lcd.LineCurrent) (register : Register) :
    lcd.write register (lcd.read register) = (lcd, []) := by
  cases register with
  | control => exact writeControl_of_same rfl
  | status =>
      rw [write, read, narrow.status_and_statBits]
      exact current.updateStat
  | lineCompare => exact current.updateStat
  | _ => rfl

end Lcd

theorem InterruptController.SourcesOnly.write_read {controller : InterruptController}
    (only : controller.SourcesOnly) :
    controller.writeRequested controller.readRequested = controller := by
  rw [InterruptController.writeRequested, readRequested_and_sources, only]

/-! ## The board -/

namespace Memory

/-- A register that takes back what it gives. -/
def DeviceRegister.restorable : DeviceRegister → Bool
  | .joypad | .serialData | .timerControl | .interruptRequest | .audio _ | .lcd _ => true
  | .serialControl | .divider | .timerCount | .timerModulo | .spriteTransfer | .bootOverlay
  | .unused => false

/-- The addresses of the registers that configure the devices. -/
def Configures (address : Word) : Prop :=
  let place := address.toNat
  place = 0xFF00 ∨ place = 0xFF01 ∨ place = 0xFF07 ∨ place = 0xFF0F ∨
    (0xFF10 ≤ place ∧ place ≤ 0xFF26) ∨ (0xFF30 ≤ place ∧ place ≤ 0xFF3F) ∨
    (0xFF40 ≤ place ∧ place ≤ 0xFF45) ∨ (0xFF47 ≤ place ∧ place ≤ 0xFF4B) ∨ place = 0xFFFF

instance (address : Word) : Decidable (Configures address) :=
  inferInstanceAs (Decidable (_ ∨ _))

end Memory

theorem Memory.put_get {count : Nat} (cells : Vector Byte count) (place : Fin count) :
    put cells place (cells.get place) = cells :=
  Vector.set_getElem_self place.isLt

namespace Board

/-- No device holds bits that are not its own, and the interrupt line is up to date. -/
structure Tidy (board : Board) : Prop where
  joypad : board.joypad.Narrow
  timer : board.timer.Narrow
  lcd : board.lcd.Narrow
  interrupts : board.SourcesOnly
  screen : board.ScreenSound

variable {board : Board}

theorem narrow_timer_access (narrow : board.timer.Narrow) (access : Access) :
    (board.access access).timer.Narrow := by
  cases access with
  | write address value =>
      rw [Board.access, timer_write]
      cases timerRegister? address with
      | none => exact narrow
      | some register => exact narrow.writeRegister value register
  | elapse cycles => exact narrow.run cycles

theorem Tidy.access (tidy : board.Tidy) (access : Access) : (board.access access).Tidy where
  joypad := by
    have seen := board.joypad_change (.access access)
    rw [change] at seen
    rw [seen]
    cases (Change.access access).input? with
    | none => exact tidy.joypad
    | some input => exact tidy.joypad.input input
  timer := narrow_timer_access tidy.timer access
  lcd := by
    rw [lcd_access]
    cases board.lcdAction? access with
    | none => exact tidy.lcd
    | some action => exact tidy.lcd.perform tidy.screen.sound action
  interrupts := tidy.interrupts.access access
  screen := tidy.screen.access access

/-- Whatever happens to the board, no device comes to hold other bits. -/
theorem Tidy.change (tidy : board.Tidy) (change : Change) : (board.change change).Tidy := by
  cases change with
  | access access => exact tidy.access access
  | acknowledge source =>
      exact ⟨tidy.joypad, tidy.timer, tidy.lcd,
        InterruptController.SourcesOnly.acknowledge tidy.interrupts source,
        ⟨tidy.screen.sound, tidy.screen.current⟩⟩
  | setButton button pressed =>
      refine ⟨tidy.joypad.input (.button button pressed), tidy.timer, tidy.lcd, ?_,
        ⟨tidy.screen.sound, tidy.screen.current⟩⟩
      rw [SourcesOnly, Board.change, interrupts_setButton]
      split
      · exact InterruptController.SourcesOnly.request tidy.interrupts .joypad
      · exact tidy.interrupts
  | loadRam =>
      exact ⟨tidy.joypad, tidy.timer, tidy.lcd, tidy.interrupts,
        ⟨tidy.screen.sound, tidy.screen.current⟩⟩
  | noticeFrame =>
      exact ⟨tidy.joypad, tidy.timer, tidy.lcd, tidy.interrupts,
        ⟨tidy.screen.sound.clearReady, tidy.screen.current⟩⟩

theorem Tidy.changeAll (tidy : board.Tidy) (changes : List Change) :
    (board.changeAll changes).Tidy :=
  changeAll_keeps Tidy (fun _ change tidy => tidy.change change) tidy changes

/-- Every register that takes back what it gives leaves the board as it is. -/
theorem Tidy.writeDevice_readDevice (tidy : board.Tidy) {register : DeviceRegister}
    (restorable : register.restorable = true) :
    board.writeDevice register (board.readDevice register) = (board, []) := by
  cases register with
  | joypad => rw [writeDevice, readDevice, tidy.joypad.write_read]
  | timerControl => rw [writeDevice, readDevice, tidy.timer.writeControl_readControl]
  | interruptRequest =>
      rw [writeDevice, readDevice, InterruptController.SourcesOnly.write_read tidy.interrupts]
  | audio offset => rw [writeDevice, readDevice, put_get]
  | lcd register =>
      rw [writeDevice, readDevice, writeLcd, Lcd.write_read tidy.lcd tidy.screen.current]
      rfl
  | serialData => rfl
  | serialControl | divider | timerCount | timerModulo | spriteTransfer | bootOverlay | unused =>
      exact absurd restorable Bool.false_ne_true

/-- So does every register that configures a device. -/
theorem Tidy.write_read (tidy : board.Tidy) {address : Word} (configures : Configures address) :
    board.write address (board.read address) = (board, []) := by
  by_cases top : address = AddressSpace.enableAddress
  · rw [top, write, read, region_enable]
    rfl
  · have apart : address.toNat ≠ 0xFFFF := fun same => top (UInt16.toNat_inj.mp same)
    have inside : 0xFF00 ≤ address.toNat ∧ address.toNat < 0xFF80 := by
      simp only [Configures] at configures
      omega
    obtain ⟨index, place⟩ : ∃ index : Fin 0x80, address.toNat = 0xFF00 + index :=
      ⟨⟨address.toNat - 0xFF00, by omega⟩, (Nat.add_sub_of_le inside.1).symm⟩
    have same : address = UInt16.ofNat (0xFF00 + index) := by
      rw [← place, UInt16.ofNat_toNat]
    have restorable : ∀ index : Fin 0x80, Configures (UInt16.ofNat (0xFF00 + index)) →
        (DeviceRegister.ofIndex index).restorable = true := by decide
    rw [write, read, Region.ofAddress_eq_device_iff.mpr place]
    exact tidy.writeDevice_readDevice (restorable index (same ▸ configures))

end Board

namespace Console

theorem tidy_powerOn (config : Config) (bootRom : Option BootRom)
    (cartridge : Option Cartridge) : (powerOn config bootRom cartridge).board.Tidy := by
  refine ⟨?joypad, ?timer, ?lcd, sourcesOnly_powerOn config bootRom cartridge,
    screenSound_powerOn config bootRom cartridge⟩
  case joypad => exact joypad_powerOn config bootRom cartridge ▸ rfl
  case timer =>
    rcases timer_powerOn config bootRom cartridge with initial | initial <;>
      exact initial ▸ rfl
  case lcd =>
    simp only [powerOn]
    split <;> exact UInt8.zero_and

/-- Whatever the host asks for, no device holds bits that are not its own. -/
theorem tidy_after (config : Config) (history : List Operation) :
    (after config history).board.Tidy := by
  refine (switchedOn_after config history).keeps (·.board.Tidy) (tidy_powerOn config)
    fun console move tidy => ?_
  rw [board_move]
  exact tidy.changeAll _

/-- Writing back what was read has no effect on the registers that configure the devices. On
every board that can occur, whatever else has happened to it since the last operation of the
host, the middle of an instruction or of a frame included, and for every address of the joypad's
register, the serial data, the control register of the timer, the two registers of the
interrupts, the registers of the screen but the sprite transfer, the sound registers and the
wave table: reading the address and writing the value there leaves the whole board as it was and
reports nothing. So no interrupt is requested, no edge is counted by the timer, and the screen
is switched neither off nor on. -/
theorem write_back_changes_nothing (config : Config) (history : List Operation)
    (changes : List Board.Change) (address : Word) (configures : Configures address) :
    let board := (after config history).board.changeAll changes
    board.write address (board.read address) = (board, []) :=
  ((tidy_after config history).changeAll changes).write_read configures

/-- The interrupt line of the screen is high for the sake of the line number when the status
register is written back with the bits that it shows besides. -/
theorem write_back_changes_nothing_of_high :
    let board := (after { ramFill := .zeros } []).board.changeAll [.access (.write 0xFF41 0x40)]
    Configures 0xFF41 ∧ board.lcd.statLine = true ∧ board.read 0xFF41 = 0xC6 ∧
      board.write 0xFF41 0xC6 = (board, []) := by
  intro board
  have configures : Configures 0xFF41 := by decide
  have shown : board.read 0xFF41 = 0xC6 := by decide +kernel
  have same := write_back_changes_nothing { ramFill := .zeros } []
    [.access (.write 0xFF41 0x40)] 0xFF41 configures
  refine ⟨configures, by decide +kernel, shown, ?_⟩
  exact (congrArg (board.write 0xFF41) shown).symm.trans same

end Console

end GameBoy
