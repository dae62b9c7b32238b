import GameBoy.Journal

/-!
# The processor's view of the machine

The processor reads and writes an address space and lets time pass there. It
also asks which interrupt to serve and confirms that it serves it. An address
space alone can answer both through the enable and request registers at `0xFFFF`
and `0xFF0F`; a machine that holds the interrupt controller may answer directly.
-/

namespace GameBoy.Cpu

/-- Memory-mapped state. A read may change it too, and a write or the passage
of time may report events. -/
class AddressSpace (β : Type) where
  read : β → Word → Byte × β
  write : β → Word → Byte → β × List Event
  elapse : β → Nat → β × List Event

/-- An address space that names the interrupt to serve. -/
class Bus (β : Type) extends AddressSpace β where
  pending : β → Option Interrupt × β
  acknowledge : β → Interrupt → β × List Event

namespace AddressSpace

/-- Address of the interrupt request register. -/
def requestAddress : Word := 0xFF0F

/-- Address of the interrupt enable register. -/
def enableAddress : Word := 0xFFFF

variable {β : Type} [AddressSpace β]

/-- The interrupt to serve, read from both registers. -/
def pollPending (bus : β) : Option Interrupt × β :=
  let (enabled, bus) := read bus enableAddress
  let (requested, bus) := read bus requestAddress
  (Interrupt.highest (enabled &&& requested), bus)

/-- Clear a request by writing the request register. -/
def pollAcknowledge (bus : β) (interrupt : Interrupt) : β × List Event :=
  let (requested, bus) := read bus requestAddress
  write bus requestAddress (requested &&& ~~~interrupt.mask)

end AddressSpace

/-- An address space whose interrupts are found by polling its registers. -/
@[reducible] def Bus.polled (β : Type) [AddressSpace β] : Bus β where
  pending := AddressSpace.pollPending
  acknowledge := AddressSpace.pollAcknowledge

end GameBoy.Cpu
