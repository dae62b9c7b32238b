import GameBoy.Cpu.Bus

/-!
# Flat memory

An address space of 65536 plain cells without devices. It remembers the writes
that went through it and the time that passed. Interrupts are found by polling
the cells of the two interrupt registers.
-/

namespace GameBoy.Memory

/-- Plain cells, the writes so far and the clock cycles so far. -/
structure Flat where
  cells : Vector Byte 0x10000 := Vector.replicate 0x10000 0
  writes : Array (Word × Byte) := #[]
  cycles : Nat := 0

namespace Flat

/-- The value of a cell. -/
def peek (memory : Flat) (address : Word) : Byte :=
  have := address.toNat_lt
  memory.cells[address.toNat]

/-- Replace the value of a cell without recording a write. -/
def poke (memory : Flat) (address : Word) (value : Byte) : Flat :=
  { memory with cells := memory.cells.set address.toNat value address.toNat_lt }

/-- Replace the value of a cell and record the write. -/
def write (memory : Flat) (address : Word) (value : Byte) : Flat :=
  { memory with
    cells := memory.cells.set address.toNat value address.toNat_lt
    writes := memory.writes.push (address, value) }

/-- Let time pass. -/
def elapse (memory : Flat) (cycles : Nat) : Flat :=
  { memory with cycles := memory.cycles + cycles }

/-- Forget the recorded writes. -/
def forgetWrites (memory : Flat) : Flat := { memory with writes := #[] }

theorem peek_poke (memory : Flat) (address other : Word) (value : Byte) :
    (memory.poke address value).peek other =
      if address = other then value else memory.peek other := by
  simp only [peek, poke, Vector.getElem_set, UInt16.toNat_inj]

theorem peek_write (memory : Flat) (address other : Word) (value : Byte) :
    (memory.write address value).peek other =
      if address = other then value else memory.peek other := by
  simp only [peek, write, Vector.getElem_set, UInt16.toNat_inj]

@[simp] theorem peek_elapse (memory : Flat) (cycles : Nat) (address : Word) :
    (memory.elapse cycles).peek address = memory.peek address := rfl

instance : Cpu.AddressSpace Flat where
  read memory address := (memory.peek address, memory)
  write memory address value := (memory.write address value, [])
  elapse memory cycles := (memory.elapse cycles, [])

instance : Cpu.Bus Flat := Cpu.Bus.polled Flat

end Flat

end GameBoy.Memory
