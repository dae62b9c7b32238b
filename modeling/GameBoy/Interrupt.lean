import GameBoy.Word

/-!
# Interrupts

Five sources share one bit layout: bit `i` of the enable register and of the
request register belongs to the source of priority `i`, whose handler starts at
`0x40 + 8 * i`. The controller holds both registers. A request is served when
its bit is set in both, lowest bit first.
-/

namespace GameBoy

/-- A source of interrupts. -/
inductive Interrupt where
  | vblank
  | stat
  | timer
  | serial
  | joypad
  deriving DecidableEq, Repr

namespace Interrupt

/-- The sources in the order in which they are served. -/
def all : List Interrupt := [.vblank, .stat, .timer, .serial, .joypad]

/-- Position of the source's bit in both registers. -/
def index : Interrupt → Nat
  | .vblank => 0
  | .stat => 1
  | .timer => 2
  | .serial => 3
  | .joypad => 4

/-- The source's bit alone. -/
def mask : Interrupt → Byte
  | .vblank => 0x01
  | .stat => 0x02
  | .timer => 0x04
  | .serial => 0x08
  | .joypad => 0x10

/-- Address of the source's handler. -/
def vector : Interrupt → Word
  | .vblank => 0x40
  | .stat => 0x48
  | .timer => 0x50
  | .serial => 0x58
  | .joypad => 0x60

/-- The source's name in messages. -/
def name : Interrupt → String
  | .vblank => "VBlank"
  | .stat => "Stat"
  | .timer => "Timer"
  | .serial => "Serial"
  | .joypad => "Joypad"

/-- The source with the highest priority among the set bits; bits above the
fifth belong to no source. -/
def highest (bits : Byte) : Option Interrupt :=
  all.find? fun interrupt => bits &&& interrupt.mask != 0

theorem vector_eq (interrupt : Interrupt) :
    interrupt.vector = 0x40 + 8 * UInt16.ofNat interrupt.index := by
  cases interrupt <;> rfl

end Interrupt

/-- The enable register and the request register. All eight bits of the first
are kept; the second has only the five bits of the sources. -/
structure InterruptController where
  enabled : Byte := 0
  requested : Byte := 0
  deriving DecidableEq, Repr

namespace InterruptController

/-- Bits of the request register that belong to a source. -/
def sources : Byte := 0x1F

/-- Set the bit of a source. -/
def request (controller : InterruptController) (interrupt : Interrupt) :
    InterruptController :=
  { controller with requested := controller.requested ||| interrupt.mask }

/-- Clear the bit of a source. -/
def acknowledge (controller : InterruptController) (interrupt : Interrupt) :
    InterruptController :=
  { controller with requested := controller.requested &&& ~~~interrupt.mask }

/-- The source to serve next: requested, enabled and of highest priority. -/
def pending (controller : InterruptController) : Option Interrupt :=
  Interrupt.highest (controller.enabled &&& controller.requested)

/-- The request register as the processor reads it: unused bits are set. -/
def readRequested (controller : InterruptController) : Byte :=
  controller.requested ||| ~~~sources

/-- Replace the request register; unused bits are dropped. -/
def writeRequested (controller : InterruptController) (value : Byte) :
    InterruptController :=
  { controller with requested := value &&& sources }

/-- Replace the enable register. -/
def writeEnabled (controller : InterruptController) (value : Byte) :
    InterruptController :=
  { controller with enabled := value }

@[simp] theorem enabled_request (controller : InterruptController) (interrupt : Interrupt) :
    (controller.request interrupt).enabled = controller.enabled := rfl

@[simp] theorem enabled_acknowledge (controller : InterruptController)
    (interrupt : Interrupt) :
    (controller.acknowledge interrupt).enabled = controller.enabled := rfl

@[simp] theorem enabled_writeRequested (controller : InterruptController) (value : Byte) :
    (controller.writeRequested value).enabled = controller.enabled := rfl

end InterruptController

end GameBoy
