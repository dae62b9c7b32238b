import GameBoy.Proofs.Console.PowerOn
import GameBoy.Proofs.Cpu.Simulation
import GameBoy.Proofs.Lcd.Sound

/-!
# Consoles that occur

The processor reaches the LCD controller through writes and through the passage of
time only, and neither leads out of the states of the controller that can occur.
Hence no program does, and no host either.
-/

namespace GameBoy

namespace Board

variable {board : Board}

theorem sound_writeDevice (sound : board.lcd.Sound) (register : Memory.DeviceRegister)
    (value : Byte) : (board.writeDevice register value).1.lcd.Sound := by
  cases register with
  | lcd register => exact sound.write register value
  | spriteTransfer => exact sound.transfer _
  | bootOverlay =>
      simp only [writeDevice, unmapBoot]
      split
      · exact sound
      · exact sound
  | _ => exact sound

theorem sound_write (sound : board.lcd.Sound) (address : Word) (value : Byte) :
    (board.write address value).1.lcd.Sound := by
  simp only [write, writeRegion]
  split
  case h_2 => exact sound.writeVram _ value
  case h_5 => exact sound.writeOam _ value
  case h_7 => exact sound_writeDevice sound _ value
  all_goals exact sound

theorem sound_elapse (sound : board.lcd.Sound) (cycles : Nat) :
    (board.elapse cycles).1.lcd.Sound :=
  sound.run cycles

/-- The processor cannot bring the controller into any other state. -/
theorem keeps_sound : Cpu.Keeps fun board : Board => board.lcd.Sound where
  read _ sound := sound
  write address value sound := sound_write sound address value
  elapse cycles _ sound := sound_elapse sound cycles
  pending sound := sound
  acknowledge _ sound := sound

end Board

namespace Console

variable {console : Console}

theorem sound_powerOn (config : Config) (bootRom : Option BootRom)
    (cartridge : Option Cartridge) :
    (powerOn config bootRom cartridge).board.lcd.Sound := by
  simp only [powerOn]
  split
  · exact Lcd.sound_new
  · exact Lcd.sound_afterBoot

theorem sound_step (sound : console.board.lcd.Sound) :
    console.step.console.board.lcd.Sound :=
  Board.keeps_sound.step { cpu := console.cpu, bus := console.board } sound

theorem sound_runFrame (sound : console.board.lcd.Sound) (budget elapsed : Nat)
    (events : Array Event) :
    (runFrame budget console elapsed events).console.board.lcd.Sound :=
  runFrame_keeps (fun console => console.board.lcd.Sound) (fun _ => sound_step)
    (fun _ => Lcd.Sound.clearReady) budget sound elapsed events

theorem sound_perform (sound : console.board.lcd.Sound) (operation : Operation) :
    (console.perform operation).2.board.lcd.Sound := by
  cases operation with
  | loadBootRom image =>
      exact perform_loadBootRom_keeps (·.board.lcd.Sound) sound (sound_powerOn _) image
  | loadCartridge image =>
      exact perform_loadCartridge_keeps (·.board.lcd.Sound) sound (sound_powerOn _) image
  | loadRam => exact sound
  | reset => exact perform_reset ▸ sound_powerOn _ _ _
  | step => exact sound_step sound
  | renderFrame => exact sound_runFrame sound.clearReady _ _ _
  | setButton => exact sound

/-- Whatever the host asks for, the controller is in a state that can occur. -/
theorem sound_after (config : Config) (history : List Operation) :
    (after config history).board.lcd.Sound :=
  performAll_keeps (fun console => console.board.lcd.Sound)
    (fun _ operation sound => sound_perform sound operation)
    (new_eq_powerOn config ▸ sound_powerOn _ _ _) history

end Console

end GameBoy
