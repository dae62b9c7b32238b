import GameBoy.Word

/-!
# Processor registers

Eight byte registers, of which seven join into pairs, the stack pointer and the
program counter. The register `f` holds four flags in its upper bits. Setting
one flag keeps every other bit of `f`, and only the pair `af` drops the four
bits that are no flags.
-/

namespace GameBoy.Cpu

/-- The register file. -/
structure Registers where
  a : Byte := 0
  f : Byte := 0
  b : Byte := 0
  c : Byte := 0
  d : Byte := 0
  e : Byte := 0
  h : Byte := 0
  l : Byte := 0
  sp : Word := 0
  pc : Word := 0
  deriving DecidableEq, Repr

/-- Conditions that the last arithmetic instruction recorded. -/
inductive Flag where
  | zero
  | subtract
  | halfCarry
  | carry
  deriving DecidableEq, Repr

/-- The flag's bit of `f`. -/
def Flag.mask : Flag → Byte
  | .zero => 0x80
  | .subtract => 0x40
  | .halfCarry => 0x20
  | .carry => 0x10

/-- Bits of `f` that hold a flag. -/
def flagBits : Byte := 0xF0

/-- Values for all four flags. -/
structure Flags where
  zero : Bool := false
  subtract : Bool := false
  halfCarry : Bool := false
  carry : Bool := false
  deriving DecidableEq, Repr

/-- The byte with exactly the given flags. -/
def Flags.toByte (flags : Flags) : Byte :=
  (if flags.zero then 0x80 else 0) ||| (if flags.subtract then 0x40 else 0) |||
    (if flags.halfCarry then 0x20 else 0) ||| (if flags.carry then 0x10 else 0)

@[simp] theorem Flags.toByte_and_flagBits (flags : Flags) :
    flags.toByte &&& flagBits = flags.toByte := by
  rcases flags with ⟨_ | _, _ | _, _ | _, _ | _⟩ <;> rfl

/-- Registers that are read and written sixteen bits at a time. -/
inductive Pair where
  | af
  | bc
  | de
  | hl
  | sp
  deriving DecidableEq, Repr

namespace Registers

/-- The state of a flag. -/
def flag (registers : Registers) (flag : Flag) : Bool := registers.f &&& flag.mask != 0

/-- Change one flag. -/
def setFlag (registers : Registers) (flag : Flag) (value : Bool) : Registers :=
  { registers with
    f := if value then registers.f ||| flag.mask else registers.f &&& ~~~flag.mask }

/-- Clear every bit of `f`. -/
def clearFlags (registers : Registers) : Registers := { registers with f := 0 }

/-- Replace every bit of `f` by the given flags. -/
def setFlags (registers : Registers) (flags : Flags) : Registers :=
  { registers with f := flags.toByte }

/-- The value of a pair; `af` shows only the flag bits of `f`. -/
def pair (registers : Registers) : Pair → Word
  | .af => Word.ofBytes registers.a (registers.f &&& flagBits)
  | .bc => Word.ofBytes registers.b registers.c
  | .de => Word.ofBytes registers.d registers.e
  | .hl => Word.ofBytes registers.h registers.l
  | .sp => registers.sp

/-- Replace a pair; `af` keeps only the flag bits of the low byte. -/
def setPair (registers : Registers) (pair : Pair) (value : Word) : Registers :=
  match pair with
  | .af => { registers with a := value.high, f := value.low &&& flagBits }
  | .bc => { registers with b := value.high, c := value.low }
  | .de => { registers with d := value.high, e := value.low }
  | .hl => { registers with h := value.high, l := value.low }
  | .sp => { registers with sp := value }

@[simp] theorem f_setFlags (registers : Registers) (flags : Flags) :
    (registers.setFlags flags).f = flags.toByte := rfl

@[simp] theorem pair_setPair_bc (registers : Registers) (value : Word) :
    (registers.setPair .bc value).pair .bc = value := by
  simp [pair, setPair]

@[simp] theorem pair_setPair_de (registers : Registers) (value : Word) :
    (registers.setPair .de value).pair .de = value := by
  simp [pair, setPair]

@[simp] theorem pair_setPair_hl (registers : Registers) (value : Word) :
    (registers.setPair .hl value).pair .hl = value := by
  simp [pair, setPair]

@[simp] theorem pair_setPair_sp (registers : Registers) (value : Word) :
    (registers.setPair .sp value).pair .sp = value := rfl

/-- Writing a pair leaves the program counter alone. -/
@[simp] theorem pc_setPair (registers : Registers) (pair : Pair) (value : Word) :
    (registers.setPair pair value).pc = registers.pc := by
  cases pair <;> rfl

/-- Registers of a machine whose boot program has just handed over: the first
instruction of the cartridge is at `0x0100`. -/
def afterBoot : Registers :=
  { a := 0x01, f := 0xB0, b := 0x00, c := 0x13, d := 0x00, e := 0xD8, h := 0x01,
    l := 0x4D, sp := 0xFFFE, pc := 0x0100 }

end Registers

end GameBoy.Cpu
