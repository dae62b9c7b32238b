import GameBoy.Proofs.Console.Access
import GameBoy.Proofs.Console.TimerInterrupts
import GameBoy.Proofs.Lcd.StatLine

/-!
# Accesses to the controller of the screen

What an access does to the controller is one of the controller's own actions, or nothing:
time passes, a register is written, a cell of its memories is written, or the sprite table
is replaced. The interrupts that the controller asks for on the way are requested on the
board. So what holds of every history of the controller holds of the controller in a
console.
-/

namespace GameBoy

open Cpu Memory

/-- The place of a register of the controller, counted from `0xFF00`. -/
def Lcd.Register.place : Lcd.Register → Nat
  | .control => 0x40
  | .status => 0x41
  | .scrollY => 0x42
  | .scrollX => 0x43
  | .line => 0x44
  | .lineCompare => 0x45
  | .backgroundPalette => 0x47
  | .spritePalette0 => 0x48
  | .spritePalette1 => 0x49
  | .windowY => 0x4A
  | .windowX => 0x4B

/-- The register of the controller that a device register is, if it is one. -/
def Memory.DeviceRegister.lcd? : DeviceRegister → Option Lcd.Register
  | .lcd register => some register
  | _ => none

theorem Lcd.lineCurrent_new : Lcd.LineCurrent {} := rfl

theorem Lcd.lineCurrent_afterBoot : Lcd.LineCurrent .afterBoot := rfl

namespace Board

/-- What an access does to the controller, if it does anything. -/
def lcdAction? (board : Board) : Access → Option Lcd.Action
  | .elapse cycles => some (.run cycles)
  | .write address value =>
    match Region.ofAddress address with
    | .videoRam offset => some (.writeVram offset value)
    | .spriteTable offset => some (.writeOam offset value)
    | .device index =>
      match DeviceRegister.ofIndex index with
      | .lcd register => some (.write register value)
      | .spriteTransfer => some (.transfer (board.transferSprites value).lcd.oam)
      | _ => none
    | _ => none

variable (board : Board)

theorem lcd_elapse (cycles : Nat) : (board.elapse cycles).1.lcd = (board.lcd.run cycles).1 := rfl

theorem lcd_access (access : Access) :
    (board.access access).lcd =
      (board.lcdAction? access).elim board.lcd fun action => (board.lcd.perform action).1 := by
  cases access with
  | elapse cycles => exact board.lcd_elapse cycles
  | write address value =>
      rw [Board.access, write, lcdAction?]
      cases Region.ofAddress address with
      | device index =>
          simp only [writeRegion]
          cases DeviceRegister.ofIndex index with
          | bootOverlay =>
              simp only [writeDevice, unmapBoot]
              split <;> rfl
          | _ => rfl
      | _ => rfl

/-- A write takes no time. -/
theorem lcdAction?_ne_run (address : Word) (value : Byte) {action : Lcd.Action}
    (found : board.lcdAction? (.write address value) = some action) (dots : Nat) :
    action ≠ .run dots := by
  simp only [lcdAction?] at found
  repeat' split at found
  all_goals cases found
  all_goals nofun

theorem place_of_ofIndex {index : Fin 0x80} {register : Lcd.Register}
    (named : DeviceRegister.ofIndex index = .lcd register) : index.val = register.place := by
  have all : ∀ index : Fin 0x80,
      (DeviceRegister.ofIndex index).lcd?.all (index.val == ·.place) = true := by
    decide
  have here := all index
  rw [named] at here
  exact beq_iff_eq.mp here

/-- The registers of the controller have an address each. -/
theorem address_of_lcdAction? {address : Word} {value written : Byte}
    {register : Lcd.Register}
    (found : board.lcdAction? (.write address value) = some (.write register written)) :
    address.toNat = 0xFF00 + register.place ∧ written = value := by
  simp only [lcdAction?] at found
  split at found
  next => exact nomatch found
  next => exact nomatch found
  next index device =>
    split at found
    next named =>
      cases found
      exact ⟨place_of_ofIndex named ▸ Region.ofAddress_eq_device_iff.mp device, rfl⟩
    next => exact nomatch found
    next => exact nomatch found
  next => exact nomatch found

/-! ## The interrupts of the controller -/

theorem mask_none (source : Interrupt) : ((0 : Byte) &&& source.mask != 0) = false := by
  cases source <;> rfl

theorem mask_request (first second : Interrupt) :
    ((InterruptController.request {} first).requested &&& second.mask != 0) =
      decide (first = second) := by
  cases first <;> cases second <;> rfl

theorem requests_receive (interrupts : InterruptController) (signal : Lcd.Signal)
    (source : Interrupt) :
    (receive interrupts signal).1.requests source =
      (interrupts.requests source || signal.requests source) := by
  cases signal with
  | switchedOff | switchedOn =>
      exact (Bool.or_false _).symm.trans (congrArg _ (mask_none source).symm)
  | statEdge | verticalBlank =>
      refine (InterruptController.requests_request _ _ _).trans (congrArg _ ?_)
      exact (mask_request _ source).symm

/-- The board requests what the reports ask for. -/
theorem requests_receiveAll (interrupts : InterruptController) (signals : List Lcd.Signal)
    (source : Interrupt) :
    (receiveAll interrupts signals).1.requests source =
      (interrupts.requests source || signals.any (·.requests source)) := by
  induction signals generalizing interrupts with
  | nil => exact (Bool.or_false _).symm
  | cons signal signals ih =>
      rw [receiveAll, ih, requests_receive, Bool.or_assoc]
      rfl

/-- A write requests what the controller reports because of it, unless it writes the
requests themselves. -/
theorem requests_write {address : Word} (other : address ≠ AddressSpace.requestAddress)
    (value : Byte) (source : Interrupt) :
    (board.access (.write address value)).interrupts.requests source =
      (board.interrupts.requests source ||
        (board.lcdAction? (.write address value)).any fun action =>
          (board.lcd.perform action).2.any (·.requests source)) := by
  rw [Board.access, write, lcdAction?]
  cases region : Region.ofAddress address with
  | device index =>
      simp only [writeRegion]
      cases named : DeviceRegister.ofIndex index with
      | interruptRequest =>
          have place : index.val = 0x0F := by
            clear region
            revert index
            decide
          refine absurd (UInt16.toNat_inj.mp ?_) other
          rw [Region.ofAddress_eq_device_iff.mp region, place]
          rfl
      | lcd register => exact requests_receiveAll _ _ _
      | bootOverlay =>
          simp only [writeDevice, unmapBoot]
          split <;> exact (Bool.or_false _).symm
      | _ => exact (Bool.or_false _).symm
  | _ => exact (Bool.or_false _).symm

/-! ## Histories -/

/-- The controller is in a state that occurs, and its interrupt line is up to date. -/
structure ScreenSound (board : Board) : Prop where
  sound : board.lcd.Sound
  current : board.lcd.LineCurrent

variable {board}

theorem ScreenSound.access (screen : board.ScreenSound) (access : Access) :
    (board.access access).ScreenSound := by
  have after := board.lcd_access access
  cases found : board.lcdAction? access with
  | none =>
      rw [found] at after
      exact ⟨after ▸ screen.sound, after ▸ screen.current⟩
  | some action =>
      rw [found] at after
      refine ⟨after ▸ screen.sound.perform action, ?_⟩
      exact after ▸ screen.current.perform screen.sound action

theorem ScreenSound.acknowledged (screen : board.ScreenSound) (activity : Activity) :
    (board.acknowledged activity).ScreenSound := by
  cases activity with
  | dispatched => exact ⟨screen.sound, screen.current⟩
  | faulted | idle | executed => exact screen

end Board

namespace Console

theorem screenSound_move {console : Console} (screen : console.board.ScreenSound)
    (move : Move) : (console.move move).board.ScreenSound := by
  cases move with
  | step =>
      rw [Console.move, console.board_step]
      refine Board.accessAll_keeps Board.ScreenSound ?_ (screen.acknowledged console.activity)
      exact fun access _ board screen => screen.access access
  | setButton | loadRam => exact ⟨screen.sound, screen.current⟩
  | noticeFrame => exact ⟨screen.sound.clearReady, screen.current⟩

theorem screenSound_powerOn (config : Config) (bootRom : Option BootRom)
    (cartridge : Option Cartridge) :
    (powerOn config bootRom cartridge).board.ScreenSound := by
  simp only [powerOn]
  split
  · exact ⟨Lcd.sound_new, Lcd.lineCurrent_new⟩
  · exact ⟨Lcd.sound_afterBoot, Lcd.lineCurrent_afterBoot⟩

/-- Whatever the host asks for, the controller of the screen is in a state that occurs, and
its interrupt line is up to date. -/
theorem screenSound_after (config : Config) (history : List Operation) :
    (after config history).board.ScreenSound :=
  (switchedOn_after config history).keeps (·.board.ScreenSound) (screenSound_powerOn config)
    fun _ move screen => screenSound_move screen move

end Console

end GameBoy
