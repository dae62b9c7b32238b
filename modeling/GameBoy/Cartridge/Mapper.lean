import GameBoy.Cartridge.Header

/-!
# Banking circuits

A circuit keeps a few registers, written through the ROM addresses, and chooses
from them the ROM bank behind each half of the ROM window and the RAM bank
behind the RAM window. A bank number may exceed the banks that the cartridge
has; the memory wraps it.
-/

namespace GameBoy.Cartridge

/-- Size of one ROM bank. -/
def romBankSize : Nat := 0x4000

/-- An address in the ROM window. -/
abbrev RomAddress := Fin 0x8000

/-- An address in the RAM window, counted from its start. -/
abbrev RamAddress := Fin 0x2000

/-- Registers of the first circuit: five low bank bits, two high bits, and a mode
in which the high bits also choose the lower ROM half and the RAM bank. -/
structure Mbc1 where
  ramEnabled : Bool := false
  low : Byte := 1
  high : Byte := 0
  advanced : Bool := false
  deriving DecidableEq, Repr

/-- Registers of the third circuit, without its clock. -/
structure Mbc3 where
  ramEnabled : Bool := false
  low : Byte := 1
  ramSelect : Byte := 0
  deriving DecidableEq, Repr

/-- Registers of the fifth circuit: nine ROM bank bits and a RAM bank. A rumble
motor takes the fourth bit of the RAM bank. -/
structure Mbc5 where
  ramEnabled : Bool := false
  low : Byte := 1
  high : Byte := 0
  ramBank : Byte := 0
  rumble : Bool := false
  deriving DecidableEq, Repr

/-- The circuit of a cartridge, with its registers. -/
inductive Mapper where
  | fixed
  | mbc1 (registers : Mbc1)
  | mbc3 (registers : Mbc3)
  | mbc5 (registers : Mbc5)
  deriving DecidableEq, Repr

/-- Whether a value written to the lowest register enables the RAM. -/
def enablesRam (value : Byte) : Bool := value &&& 0x0F = 0x0A

/-- A bank number in which zero selects bank one. -/
def nonzeroBank (value : Byte) : Byte := if value = 0 then 1 else value

namespace Mbc1

/-- Write a register. -/
def write (registers : Mbc1) (address : RomAddress) (value : Byte) : Mbc1 :=
  if address.val < 0x2000 then { registers with ramEnabled := enablesRam value }
  else if address.val < 0x4000 then { registers with low := nonzeroBank (value &&& 0x1F) }
  else if address.val < 0x6000 then { registers with high := value &&& 0x03 }
  else { registers with advanced := value.bit 0 }

/-- The bank behind an address. -/
def romBank (registers : Mbc1) (address : RomAddress) : Nat :=
  if address.val < romBankSize then
    if registers.advanced then 32 * registers.high.toNat else 0
  else 32 * registers.high.toNat + registers.low.toNat

/-- The selected RAM bank. -/
def ramBank (registers : Mbc1) : Nat :=
  if registers.advanced then registers.high.toNat else 0

end Mbc1

namespace Mbc3

/-- Write a register. The highest one latches the clock and does nothing here. -/
def write (registers : Mbc3) (address : RomAddress) (value : Byte) : Mbc3 :=
  if address.val < 0x2000 then { registers with ramEnabled := enablesRam value }
  else if address.val < 0x4000 then { registers with low := nonzeroBank (value &&& 0x7F) }
  else if address.val < 0x6000 then { registers with ramSelect := value }
  else registers

/-- The bank behind an address. -/
def romBank (registers : Mbc3) (address : RomAddress) : Nat :=
  if address.val < romBankSize then 0 else registers.low.toNat

/-- The selected RAM bank, unless a clock register is selected. -/
def ramBank? (registers : Mbc3) : Option Nat :=
  if registers.ramSelect ≤ 3 then some registers.ramSelect.toNat else none

end Mbc3

namespace Mbc5

/-- Bits of the RAM bank register that select a bank. -/
def ramBits (registers : Mbc5) : Byte := if registers.rumble then 0x07 else 0x0F

/-- Write a register. -/
def write (registers : Mbc5) (address : RomAddress) (value : Byte) : Mbc5 :=
  if address.val < 0x2000 then { registers with ramEnabled := enablesRam value }
  else if address.val < 0x3000 then { registers with low := value }
  else if address.val < 0x4000 then { registers with high := value &&& 0x01 }
  else if address.val < 0x6000 then
    { registers with ramBank := value &&& registers.ramBits }
  else registers

/-- The bank behind an address. -/
def romBank (registers : Mbc5) (address : RomAddress) : Nat :=
  if address.val < romBankSize then 0
  else 256 * registers.high.toNat + registers.low.toNat

end Mbc5

namespace Mapper

/-- The circuit of a header, with its registers at power-on. -/
def ofHeader (header : Header) : Mapper :=
  match header.mapper with
  | .romOnly | .unsupported _ => .fixed
  | .mbc1 => .mbc1 {}
  | .mbc3 => .mbc3 {}
  | .mbc5 => .mbc5 { rumble := 0x1C ≤ header.cartridgeType ∧ header.cartridgeType ≤ 0x1E }

/-- Write a register. -/
def write (mapper : Mapper) (address : RomAddress) (value : Byte) : Mapper :=
  match mapper with
  | .fixed => .fixed
  | .mbc1 registers => .mbc1 (registers.write address value)
  | .mbc3 registers => .mbc3 (registers.write address value)
  | .mbc5 registers => .mbc5 (registers.write address value)

/-- The ROM bank behind an address. Without a circuit the two banks are fixed. -/
def romBank (mapper : Mapper) (address : RomAddress) : Nat :=
  match mapper with
  | .fixed => address.val / romBankSize
  | .mbc1 registers => registers.romBank address
  | .mbc3 registers => registers.romBank address
  | .mbc5 registers => registers.romBank address

/-- The RAM bank behind the RAM window, or nothing while the RAM is disabled or
something else is selected. Without a circuit the RAM is always enabled. -/
def ramBank? (mapper : Mapper) : Option Nat :=
  match mapper with
  | .fixed => some 0
  | .mbc1 registers => if registers.ramEnabled then some registers.ramBank else none
  | .mbc3 registers => if registers.ramEnabled then registers.ramBank? else none
  | .mbc5 registers => if registers.ramEnabled then some registers.ramBank.toNat else none

end Mapper

end GameBoy.Cartridge
