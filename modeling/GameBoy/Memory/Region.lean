import GameBoy.Word

/-!
# The memory map

The upper half of the address space is divided among the devices; the lower half
belongs to the cartridge. Work RAM appears twice, the second time cut short by
the sprite table.
-/

namespace GameBoy.Memory

/-- What an address belongs to, and its place there. -/
inductive Region where
  | rom (address : Fin 0x8000)
  | videoRam (offset : Fin 0x2000)
  | cartridgeRam (offset : Fin 0x2000)
  | workRam (offset : Fin 0x2000)
  | spriteTable (offset : Fin 0xA0)
  | unused
  | device (index : Fin 0x80)
  | highRam (offset : Fin 0x7F)
  | interruptEnable
  deriving DecidableEq, Repr

/-- The region of an address. -/
def Region.ofAddress (address : Word) : Region :=
  have := address.toNat_lt
  let place := address.toNat
  if rom : place < 0x8000 then .rom ⟨place, rom⟩
  else if below : place < 0xA000 then .videoRam ⟨place - 0x8000, by omega⟩
  else if below : place < 0xC000 then .cartridgeRam ⟨place - 0xA000, by omega⟩
  else if below : place < 0xE000 then .workRam ⟨place - 0xC000, by omega⟩
  else if below : place < 0xFE00 then .workRam ⟨place - 0xE000, by omega⟩
  else if below : place < 0xFEA0 then .spriteTable ⟨place - 0xFE00, by omega⟩
  else if below : place < 0xFF00 then .unused
  else if below : place < 0xFF80 then .device ⟨place - 0xFF00, by omega⟩
  else if below : place < 0xFFFF then .highRam ⟨place - 0xFF80, by omega⟩
  else .interruptEnable

/-- The cells of a memory with one of them replaced. -/
def put {count : Nat} (cells : Vector Byte count) (place : Fin count) (value : Byte) :
    Vector Byte count :=
  cells.set place value

end GameBoy.Memory
