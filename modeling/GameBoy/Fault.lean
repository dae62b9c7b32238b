import GameBoy.Text.Hex

/-!
# Faults

A program ends for good when the processor fetches an opcode that names no
instruction.
-/

namespace GameBoy

/-- An opcode that names no instruction, and where it was fetched. -/
structure Fault where
  opcode : Byte
  address : Word
  deriving DecidableEq, Repr

/-- The fault in words. -/
def Fault.message (fault : Fault) : String :=
  s!"illegal opcode {fault.opcode.hex} at {fault.address.hex}"

end GameBoy
