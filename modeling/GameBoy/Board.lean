import GameBoy.Cartridge
import GameBoy.Cpu.Bus
import GameBoy.Interrupt
import GameBoy.Joypad
import GameBoy.Memory.DeviceRegister
import GameBoy.Memory.Region
import GameBoy.Timer

/-!
# The board

Everything that the processor can address: memories, devices and the cartridge
slot. Reading has no side effects. Writing reaches exactly one owner, but a write
to a device register may request an interrupt or, for the sprite transfer, copy
160 bytes. Time passes for the timer and for the LCD controller alike.
-/

namespace GameBoy

/-- A boot program. -/
abbrev BootRom := Vector Byte 0x100

/-- The machine without its processor. -/
structure Board where
  cartridge : Option Cartridge := none
  bootRom : Option BootRom := none
  /-- Whether the boot program covers the start of the cartridge. -/
  bootMapped : Bool := false
  workRam : Vector Byte 0x2000 := Vector.replicate 0x2000 0
  highRam : Vector Byte 0x7F := Vector.replicate 0x7F 0
  serialData : Byte := 0
  serialControl : Byte := 0
  audio : Vector Byte Memory.audioSize := Vector.replicate Memory.audioSize 0
  /-- The page that sprites were last transferred from. -/
  transferPage : Byte := 0xFF
  timer : Timer := {}
  lcd : Lcd := {}
  interrupts : InterruptController := {}
  joypad : Joypad := {}

namespace Board

open Memory

/-- Bits of the serial control register that always read as one. -/
def serialUnusedBits : Byte := 0x7E

/-- The boot program, while it is mapped. -/
def overlay? (board : Board) : Option BootRom :=
  if board.bootMapped then board.bootRom else none

/-- Read the ROM window of the cartridge slot. -/
def readSlot (board : Board) (address : Cartridge.RomAddress) : Byte :=
  board.cartridge.elim Cartridge.openBus (·.readRom address)

/-- Read the ROM window: the boot program covers its first page while it is
mapped. -/
def readRom (board : Board) (address : Cartridge.RomAddress) : Byte :=
  match board.overlay? with
  | some image =>
    if covered : address.val < 0x100 then image[address.val] else board.readSlot address
  | none => board.readSlot address

/-- Read a device register. -/
def readDevice (board : Board) : DeviceRegister → Byte
  | .joypad => board.joypad.read
  | .serialData => board.serialData
  | .serialControl => board.serialControl ||| serialUnusedBits
  | .divider => board.timer.divider
  | .timerCount => board.timer.count
  | .timerModulo => board.timer.modulo
  | .timerControl => board.timer.readControl
  | .interruptRequest => board.interrupts.readRequested
  | .audio offset => board.audio.get offset
  | .lcd register => board.lcd.read register
  | .spriteTransfer => board.transferPage
  | .bootOverlay => Cartridge.openBus
  | .unused => Cartridge.openBus

/-- Read a place in a region. -/
def readRegion (board : Board) : Region → Byte
  | .rom address => board.readRom address
  | .videoRam offset => board.lcd.readVram offset
  | .cartridgeRam offset => board.cartridge.elim Cartridge.openBus (·.readRam offset)
  | .workRam offset => board.workRam.get offset
  | .spriteTable offset => board.lcd.readOam offset
  | .unused => Cartridge.openBus
  | .device index => board.readDevice (.ofIndex index)
  | .highRam offset => board.highRam.get offset
  | .interruptEnable => board.interrupts.enabled

/-- Read an address. -/
def read (board : Board) (address : Word) : Byte := board.readRegion (.ofAddress address)

/-- Request an interrupt. -/
def request (board : Board) (interrupt : Interrupt) : Board :=
  { board with interrupts := board.interrupts.request interrupt }

/-- The interrupt requests and the events behind one report of the LCD
controller. -/
def receive (interrupts : InterruptController) : Lcd.Signal → InterruptController × Event
  | .switchedOff line => (interrupts, .lcdOff line)
  | .switchedOn => (interrupts, .lcdOn)
  | .statEdge line mode => (interrupts.request .stat, .statEdge line mode)
  | .verticalBlank =>
    let interrupts := interrupts.request .vblank
    (interrupts, .verticalBlank interrupts.readRequested)

/-- The interrupt requests and the events behind the reports of the LCD
controller, in order. -/
def receiveAll (interrupts : InterruptController) :
    List Lcd.Signal → InterruptController × List Event
  | [] => (interrupts, [])
  | signal :: signals =>
    let (interrupts, event) := receive interrupts signal
    let (interrupts, events) := receiveAll interrupts signals
    (interrupts, event :: events)

/-- Write a register of the LCD controller. -/
def writeLcd (board : Board) (register : Lcd.Register) (value : Byte) :
    Board × List Event :=
  let (lcd, signals) := board.lcd.write register value
  let (interrupts, events) := receiveAll board.interrupts signals
  ({ board with lcd, interrupts }, events)

/-- The page that a sprite transfer reads. Pages above work RAM lie in its second
appearance. -/
def transferSource (value : Byte) : Byte := if 0xDF < value then value - 0x20 else value

/-- Read an address for a sprite transfer, which no lock of the video memory
stops. -/
def readForTransfer (board : Board) (address : Word) : Byte :=
  match Region.ofAddress address with
  | .videoRam offset => board.lcd.vram.get offset
  | region => board.readRegion region

/-- Copy a page into the sprite table, at once. -/
def transferSprites (board : Board) (value : Byte) : Board :=
  let page := transferSource value
  let oam := Vector.ofFn fun offset : Fin 0xA0 =>
    board.readForTransfer (Word.ofBytes page (UInt8.ofNat offset))
  { board with transferPage := value, lcd := { board.lcd with oam } }

/-- Unmap the boot program for good. -/
def unmapBoot (board : Board) (value : Byte) : Board × List Event :=
  if value.bit 0 && board.bootMapped then
    ({ board with bootMapped := false }, [.bootRomUnmapped])
  else (board, [])

/-- Write a device register. -/
def writeDevice (board : Board) (register : DeviceRegister) (value : Byte) :
    Board × List Event :=
  match register with
  | .joypad => ({ board with joypad := board.joypad.write value }, [])
  | .serialData => ({ board with serialData := value }, [])
  | .serialControl => ({ board with serialControl := value }, [])
  | .divider => ({ board with timer := board.timer.resetDivider }, [])
  | .timerCount => ({ board with timer := board.timer.writeCount value }, [])
  | .timerModulo => ({ board with timer := board.timer.writeModulo value }, [])
  | .timerControl => ({ board with timer := board.timer.writeControl value }, [])
  | .interruptRequest =>
    ({ board with interrupts := board.interrupts.writeRequested value }, [])
  | .audio offset => ({ board with audio := put board.audio offset value }, [])
  | .lcd register => board.writeLcd register value
  | .spriteTransfer => (board.transferSprites value, [])
  | .bootOverlay => board.unmapBoot value
  | .unused => (board, [])

/-- Change the cartridge, if there is one. -/
@[inline] def modifyCartridge (board : Board) (change : Cartridge → Cartridge) : Board :=
  { board with cartridge := board.cartridge.map change }

/-- Write a place in a region. -/
def writeRegion (board : Board) (region : Region) (value : Byte) : Board × List Event :=
  match region with
  | .rom address => (board.modifyCartridge (·.writeRom address value), [])
  | .videoRam offset => ({ board with lcd := board.lcd.writeVram offset value }, [])
  | .cartridgeRam offset => (board.modifyCartridge (·.writeRam offset value), [])
  | .workRam offset => ({ board with workRam := put board.workRam offset value }, [])
  | .spriteTable offset => ({ board with lcd := board.lcd.writeOam offset value }, [])
  | .unused => (board, [])
  | .device index => board.writeDevice (.ofIndex index) value
  | .highRam offset => ({ board with highRam := put board.highRam offset value }, [])
  | .interruptEnable =>
    ({ board with interrupts := board.interrupts.writeEnabled value }, [])

/-- Write an address. -/
def write (board : Board) (address : Word) (value : Byte) : Board × List Event :=
  board.writeRegion (.ofAddress address) value

/-- Let the timer run, and request its interrupt. -/
def runTimer (board : Board) (cycles : Nat) : Board :=
  let (timer, requests) := board.timer.run cycles
  let interrupts :=
    if requests = 0 then board.interrupts else board.interrupts.request .timer
  { board with timer, interrupts }

/-- Let the LCD controller run, and request its interrupts. -/
def runLcd (board : Board) (dots : Nat) : Board × List Event :=
  let (lcd, signals) := board.lcd.run dots
  let (interrupts, events) := receiveAll board.interrupts signals
  ({ board with lcd, interrupts }, events)

/-- Let time pass. -/
def elapse (board : Board) (cycles : Nat) : Board × List Event :=
  (board.runTimer cycles).runLcd cycles

/-- Press or release a button. -/
def setButton (board : Board) (button : Button) (pressed : Bool) : Board :=
  let (joypad, requested) := board.joypad.setButton button pressed
  let interrupts :=
    if requested then board.interrupts.request .joypad else board.interrupts
  { board with joypad, interrupts }

instance : Cpu.AddressSpace Board where
  read board address := (board.read address, board)
  write board address value := board.write address value
  elapse board cycles := board.elapse cycles

/-- The board holds the interrupt controller and answers from it directly. -/
instance : Cpu.Bus Board where
  pending board := (board.interrupts.pending, board)
  acknowledge board interrupt :=
    ({ board with interrupts := board.interrupts.acknowledge interrupt }, [])

end Board

end GameBoy
