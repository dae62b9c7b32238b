import GameBoy.Cpu.Step
import GameBoy.Memory.Flat
import Mathlib.Data.Fintype.Basic
import Mathlib.Tactic.FinCases

/-!
# The opcode map

What programmers look up about an opcode: how many bytes its instruction has, how many clock
cycles it takes, where the program goes on, and what is written to which address. The map lists
this by the number of the opcode, without reference to its decoding; only the byte that an
instruction behind the prefix `0xCB` leaves in memory is told by the operation. Decoding an
opcode gives an instruction to which all that is in the map applies.
-/

namespace GameBoy.Cpu

open Memory

namespace Core

variable (core : Core Flat)

/-- The byte at the program counter. -/
def opcode : Byte := core.bus.peek core.registers.pc

/-- The byte behind the opcode. -/
def operandByte : Byte := core.bus.peek (core.registers.pc + 1)

/-- The two bytes behind the opcode. -/
def operandWord : Word :=
  Word.ofBytes (core.bus.peek (core.registers.pc + 2)) core.operandByte

/-- The word on top of the stack. -/
def stackWord : Word :=
  Word.ofBytes (core.bus.peek (core.registers.sp + 1)) (core.bus.peek core.registers.sp)

/-- The memory cell at `hl`. -/
def cellAtHl : Byte := core.bus.peek (core.registers.pair .hl)

/-- The writes that put a word onto the stack. -/
def pushes (word : Word) : List (Word × Byte) :=
  [(core.registers.sp - 1, word.high), (core.registers.sp - 2, word.low)]

end Core

/-! ## The map -/

namespace Opcode

/-- Bytes of an instruction, by its opcode. Undefined opcodes have none. -/
def lengths : List (List Nat) :=
  [[1, 3, 1, 1, 1, 1, 2, 1, 3, 1, 1, 1, 1, 1, 2, 1],
   [2, 3, 1, 1, 1, 1, 2, 1, 2, 1, 1, 1, 1, 1, 2, 1],
   [2, 3, 1, 1, 1, 1, 2, 1, 2, 1, 1, 1, 1, 1, 2, 1],
   [2, 3, 1, 1, 1, 1, 2, 1, 2, 1, 1, 1, 1, 1, 2, 1],
   [1, 1, 1, 1, 1, 1, 1, 1, 1, 1, 1, 1, 1, 1, 1, 1],
   [1, 1, 1, 1, 1, 1, 1, 1, 1, 1, 1, 1, 1, 1, 1, 1],
   [1, 1, 1, 1, 1, 1, 1, 1, 1, 1, 1, 1, 1, 1, 1, 1],
   [1, 1, 1, 1, 1, 1, 1, 1, 1, 1, 1, 1, 1, 1, 1, 1],
   [1, 1, 1, 1, 1, 1, 1, 1, 1, 1, 1, 1, 1, 1, 1, 1],
   [1, 1, 1, 1, 1, 1, 1, 1, 1, 1, 1, 1, 1, 1, 1, 1],
   [1, 1, 1, 1, 1, 1, 1, 1, 1, 1, 1, 1, 1, 1, 1, 1],
   [1, 1, 1, 1, 1, 1, 1, 1, 1, 1, 1, 1, 1, 1, 1, 1],
   [1, 1, 3, 3, 3, 1, 2, 1, 1, 1, 3, 2, 3, 3, 2, 1],
   [1, 1, 3, 0, 3, 1, 2, 1, 1, 1, 3, 0, 3, 0, 2, 1],
   [2, 1, 1, 0, 0, 1, 2, 1, 2, 1, 3, 0, 0, 0, 2, 1],
   [2, 1, 1, 1, 0, 1, 2, 1, 2, 1, 3, 1, 0, 0, 2, 1]]

/-- Clock cycles of an instruction that does not branch, by its opcode. The cycles behind `0xCB`
are not in this table. -/
def cycles : List (List Nat) :=
  [[4, 12,  8,  8,  4,  4,  8,  4, 20,  8,  8,  8,  4,  4,  8,  4],
   [4, 12,  8,  8,  4,  4,  8,  4, 12,  8,  8,  8,  4,  4,  8,  4],
   [8, 12,  8,  8,  4,  4,  8,  4,  8,  8,  8,  8,  4,  4,  8,  4],
   [8, 12,  8,  8, 12, 12, 12,  4,  8,  8,  8,  8,  4,  4,  8,  4],
   [4,  4,  4,  4,  4,  4,  8,  4,  4,  4,  4,  4,  4,  4,  8,  4],
   [4,  4,  4,  4,  4,  4,  8,  4,  4,  4,  4,  4,  4,  4,  8,  4],
   [4,  4,  4,  4,  4,  4,  8,  4,  4,  4,  4,  4,  4,  4,  8,  4],
   [8,  8,  8,  8,  8,  8,  4,  8,  4,  4,  4,  4,  4,  4,  8,  4],
   [4,  4,  4,  4,  4,  4,  8,  4,  4,  4,  4,  4,  4,  4,  8,  4],
   [4,  4,  4,  4,  4,  4,  8,  4,  4,  4,  4,  4,  4,  4,  8,  4],
   [4,  4,  4,  4,  4,  4,  8,  4,  4,  4,  4,  4,  4,  4,  8,  4],
   [4,  4,  4,  4,  4,  4,  8,  4,  4,  4,  4,  4,  4,  4,  8,  4],
   [8, 12, 12, 16, 12, 16,  8, 16,  8, 16, 12,  0, 12, 24,  8, 16],
   [8, 12, 12,  0, 12, 16,  8, 16,  8, 16, 12,  0, 12,  0,  8, 16],
   [12, 12,  8,  0,  0, 16,  8, 16, 16,  4, 16,  0,  0,  0,  8, 16],
   [12, 12,  8,  4,  0, 16,  8, 16, 12,  8, 16,  4,  0,  0,  8, 16]]

/-- The entry of an opcode in a table of sixteen rows. -/
def lookup (table : List (List Nat)) (opcode : Byte) : Nat :=
  (table.getD (opcode.toNat / 16) []).getD (opcode.toNat % 16) 0

/-- Bytes of the instruction, with the opcode and its operands. -/
def length (opcode : Byte) : Nat := lookup lengths opcode

/-- Address behind the instruction. -/
def next (opcode : Byte) (core : Core Flat) : Word :=
  core.registers.pc + UInt16.ofNat (length opcode)

/-- Whether a branch is taken. Only some of the branches look at a flag, and where there is no
branch nothing depends on it. -/
def taken (opcode : Byte) (registers : Registers) : Bool :=
  match opcode.toNat with
  | 0x20 | 0xC0 | 0xC2 | 0xC4 => !registers.flag .zero
  | 0x28 | 0xC8 | 0xCA | 0xCC => registers.flag .zero
  | 0x30 | 0xD0 | 0xD2 | 0xD4 => !registers.flag .carry
  | 0x38 | 0xD8 | 0xDA | 0xDC => registers.flag .carry
  | _ => true

/-- Clock cycles of an instruction that branches where it could have gone on. -/
def takenCycles (opcode : Byte) : Nat :=
  match opcode.toNat with
  | 0x20 | 0x28 | 0x30 | 0x38 => 12
  | 0xC0 | 0xC8 | 0xD0 | 0xD8 => 20
  | 0xC2 | 0xCA | 0xD2 | 0xDA => 16
  | 0xC4 | 0xCC | 0xD4 | 0xDC => 24
  | _ => lookup cycles opcode

/-- Clock cycles of the instruction that is spelled behind `0xCB`. -/
def extensionCost (extension : Byte) : Nat :=
  if extension % 8 = 6 then if 0x40 ≤ extension ∧ extension < 0x80 then 12 else 16 else 8

/-- Clock cycles of the instruction that the processor is about to execute. -/
def cost (opcode : Byte) (core : Core Flat) : Nat :=
  match opcode.toNat with
  | 0xCB => extensionCost core.operandByte
  | _ => if taken opcode core.registers then takenCycles opcode else lookup cycles opcode

/-- Where a branch leads: relative to the instruction behind it, to the operand, to the word on
the stack, to the address in `hl`, or to one of eight fixed addresses. -/
def branch? (opcode : Byte) (core : Core Flat) : Option Word :=
  match opcode.toNat with
  | 0x18 | 0x20 | 0x28 | 0x30 | 0x38 => some (next opcode core + Word.ofSigned core.operandByte)
  | 0xC2 | 0xC3 | 0xCA | 0xD2 | 0xDA => some core.operandWord
  | 0xC4 | 0xCC | 0xCD | 0xD4 | 0xDC => some core.operandWord
  | 0xC0 | 0xC8 | 0xC9 | 0xD0 | 0xD8 | 0xD9 => some core.stackWord
  | 0xE9 => some (core.registers.pair .hl)
  | 0xC7 => some 0x00
  | 0xCF => some 0x08
  | 0xD7 => some 0x10
  | 0xDF => some 0x18
  | 0xE7 => some 0x20
  | 0xEF => some 0x28
  | 0xF7 => some 0x30
  | 0xFF => some 0x38
  | _ => none

/-- Where the program goes on. -/
def destination (opcode : Byte) (core : Core Flat) : Word :=
  if taken opcode core.registers then (branch? opcode core).getD (next opcode core)
  else next opcode core

/-- What replaces a byte under the instruction that is spelled behind `0xCB`. -/
def replaced (extension value : Byte) (carry : Bool) : Byte :=
  if extension < 0x40 then ((Shift.ofIndex (row extension)).apply value carry).value
  else if extension < 0xC0 then value.clear (row extension)
  else value.set (row extension)

/-- Writes of the instruction that is spelled behind `0xCB`: it replaces the cell at `hl`, or
tests a bit there, or works on a register. -/
def extensionStores (extension : Byte) (core : Core Flat) : List (Word × Byte) :=
  if extension % 8 = 6 then
    if 0x40 ≤ extension ∧ extension < 0x80 then []
    else
      [(core.registers.pair .hl,
        replaced extension core.cellAtHl (core.registers.flag .carry))]
  else []

/-- Writes of the instruction that the processor is about to execute, in order. -/
def stores (opcode : Byte) (core : Core Flat) : List (Word × Byte) :=
  let registers := core.registers
  match opcode.toNat with
  | 0x02 => [(registers.pair .bc, registers.a)]
  | 0x08 => [(core.operandWord, registers.sp.low), (core.operandWord + 1, registers.sp.high)]
  | 0x10 => [(0xFF04, 0)]
  | 0x12 => [(registers.pair .de, registers.a)]
  | 0x22 | 0x32 | 0x77 => [(registers.pair .hl, registers.a)]
  | 0x34 => [(registers.pair .hl, core.cellAtHl + 1)]
  | 0x35 => [(registers.pair .hl, core.cellAtHl - 1)]
  | 0x36 => [(registers.pair .hl, core.operandByte)]
  | 0x70 => [(registers.pair .hl, registers.b)]
  | 0x71 => [(registers.pair .hl, registers.c)]
  | 0x72 => [(registers.pair .hl, registers.d)]
  | 0x73 => [(registers.pair .hl, registers.e)]
  | 0x74 => [(registers.pair .hl, registers.h)]
  | 0x75 => [(registers.pair .hl, registers.l)]
  | 0xC4 | 0xCC | 0xCD | 0xD4 | 0xDC =>
    if taken opcode registers then core.pushes (next opcode core) else []
  | 0xC7 | 0xCF | 0xD7 | 0xDF | 0xE7 | 0xEF | 0xF7 | 0xFF => core.pushes (next opcode core)
  | 0xC5 => core.pushes (registers.pair .bc)
  | 0xD5 => core.pushes (registers.pair .de)
  | 0xE5 => core.pushes (registers.pair .hl)
  | 0xF5 => core.pushes (registers.pair .af)
  | 0xCB => extensionStores core.operandByte core
  | 0xE0 => [(0xFF00 + core.operandByte.toUInt16, registers.a)]
  | 0xE2 => [(0xFF00 + registers.c.toUInt16, registers.a)]
  | 0xEA => [(core.operandWord, registers.a)]
  | _ => []

end Opcode

/-! ## Instructions -/

/-- The instruction that a form gives with its operand. -/
def Form.complete (form : Form) (byte : Byte) (word : Word) : Option Instruction :=
  match form with
  | .inherent instruction => some instruction
  | .byte instruction => some (instruction byte)
  | .word instruction => some (instruction word)
  | .undefined => none

/-- Replacing an operand writes memory only where it is the cell at `hl`. -/
def Operand.stores (operand : Operand) (core : Core Flat) (value : Byte) : List (Word × Byte) :=
  match operand with
  | .atHl => [(core.registers.pair .hl, value)]
  | _ => []

theorem Operand.stores_of_register {operand : Operand} (register : operand ≠ .atHl)
    (core : Core Flat) (value : Byte) : operand.stores core value = [] := by
  cases operand with
  | atHl => exact absurd rfl register
  | b | c | d | e | h | l | a => rfl

namespace Instruction

/-- Where an instruction leads that is behind the address `next`. -/
def destination (core : Core Flat) (next : Word) : Instruction → Word
  | .jumpRelative condition displacement =>
    if condition.holds core.registers then next + Word.ofSigned displacement else next
  | .jump condition target | .call condition target =>
    if condition.holds core.registers then target else next
  | .ret condition => if condition.holds core.registers then core.stackWord else next
  | .returnEnabling => core.stackWord
  | .jumpHl => core.registers.pair .hl
  | .restart target => target
  | _ => next

/-- Writes of an instruction that is behind the address `next`, in order. -/
def stores (core : Core Flat) (next : Word) : Instruction → List (Word × Byte)
  | .stop => [(dividerAddress, 0)]
  | .load target source => target.stores core (core.readOperand source).1
  | .loadByte target value => target.stores core value
  | .storeAt pointer => [((core.registers.follow pointer).1, core.registers.a)]
  | .storeSp address =>
    [(address, core.registers.sp.low), (address + 1, core.registers.sp.high)]
  | .storePage offset => [(highPage + offset.toUInt16, core.registers.a)]
  | .storePageC => [(highPage + core.registers.c.toUInt16, core.registers.a)]
  | .store address => [(address, core.registers.a)]
  | .push pair => core.pushes (core.registers.pair pair)
  | .increment target => target.stores core ((core.readOperand target).1 + 1)
  | .decrement target => target.stores core ((core.readOperand target).1 - 1)
  | .call condition _ => if condition.holds core.registers then core.pushes next else []
  | .restart _ => core.pushes next
  | .shift kind target =>
    target.stores core
      (kind.apply (core.readOperand target).1 (core.registers.flag .carry)).value
  | .resetBit index target => target.stores core ((core.readOperand target).1.clear index)
  | .setBit index target => target.stores core ((core.readOperand target).1.set index)
  | _ => []

end Instruction

/-- All that is in the map about an opcode applies to an instruction. -/
structure Opcode.Describes (opcode : Byte) (core : Core Flat) (instruction : Instruction) :
    Prop where
  cost : instruction.cost (instruction.condition.holds core.registers) = Opcode.cost opcode core
  destination :
    instruction.destination core (Opcode.next opcode core) = Opcode.destination opcode core
  stores : instruction.stores core (Opcode.next opcode core) = Opcode.stores opcode core

/-! ## Decoding -/

namespace Opcode

/-- An opcode is read as its two hexadecimal digits. -/
theorem forall_of_digits {property : Byte → Prop}
    (digits : ∀ high low : Fin 16, property (UInt8.ofNat (16 * high.val + low.val)))
    (opcode : Byte) : property opcode := by
  have bound := opcode.toNat_lt
  have whole := digits ⟨opcode.toNat / 16, by omega⟩ ⟨opcode.toNat % 16, by omega⟩
  rwa [Nat.div_add_mod, UInt8.ofNat_toNat] at whole

/-- The map applies to what an opcode spells without the prefix. -/
theorem exists_describes_of_plain (core : Core Flat) (opcode : Byte) :
    opcode ∉ undefined → opcode ≠ 0xCB →
      (decode opcode).length = length opcode ∧
        ∃ instruction, (decode opcode).complete core.operandByte core.operandWord =
          some instruction ∧ Describes opcode core instruction := by
  revert opcode
  apply forall_of_digits
  intro high low
  -- Each opcode is looked up in the map and decoded.
  fin_cases high <;> fin_cases low <;> first
    | exact fun _ _ => ⟨rfl, _, rfl, rfl, rfl, rfl⟩
    | exact fun defined _ => absurd (by decide) defined
    | exact fun _ plain => absurd rfl plain

/-! ## Behind the prefix -/

theorem ofIndex_column_eq_atHl_iff (extension : Byte) :
    Operand.ofIndex (column extension) = .atHl ↔ extension % 8 = 6 := by
  revert extension
  apply forall_of_digits
  decide +kernel

theorem cost_ofExtension (extension : Byte) :
    ∀ taken, (Instruction.ofExtension extension).cost taken = extensionCost extension := by
  revert extension
  apply forall_of_digits
  decide +kernel

theorem destination_ofExtension (core : Core Flat) (extension : Byte) (next : Word) :
    (Instruction.ofExtension extension).destination core next = next := by
  unfold Instruction.ofExtension
  split
  · rfl
  · split
    · rfl
    · split <;> rfl

theorem stores_ofExtension (core : Core Flat) (extension : Byte) (next : Word) :
    (Instruction.ofExtension extension).stores core next = extensionStores extension core := by
  have tests : 0x40 ≤ extension ∧ extension < 0x80 ↔
      ¬ extension < 0x40 ∧ extension < 0x80 := by
    rw [UInt8.not_lt]
  unfold Instruction.ofExtension extensionStores replaced
  rw [if_congr tests rfl rfl]
  by_cases memory : extension % 8 = 6
  · rw [if_pos memory, (ofIndex_column_eq_atHl_iff extension).mpr memory]
    by_cases shifted : extension < 0x40
    · rw [if_pos shifted, if_pos shifted, if_neg fun both => both.1 shifted]
      rfl
    · rw [if_neg shifted, if_neg shifted]
      by_cases tested : extension < 0x80
      · rw [if_pos tested, if_pos ⟨shifted, tested⟩]
        rfl
      · have untested : ¬ (¬ extension < 0x40 ∧ extension < 0x80) := fun both => tested both.2
        rw [if_neg tested, if_neg untested]
        split <;> rfl
  · have register : Operand.ofIndex (column extension) ≠ .atHl :=
      mt (ofIndex_column_eq_atHl_iff extension).mp memory
    rw [if_neg memory]
    split
    · exact Operand.stores_of_register register core _
    · split
      · rfl
      · split <;> exact Operand.stores_of_register register core _

/-- The map applies to what is spelled behind the prefix. -/
theorem describes_ofExtension (core : Core Flat) :
    Describes 0xCB core (.ofExtension core.operandByte) where
  cost := cost_ofExtension core.operandByte _
  destination := destination_ofExtension core core.operandByte _
  stores := stores_ofExtension core core.operandByte _

/-- Every opcode that is not undefined spells an instruction to which the map applies. -/
theorem exists_describes (core : Core Flat) {opcode : Byte} (defined : opcode ∉ undefined) :
    (decode opcode).length = length opcode ∧
      ∃ instruction, (decode opcode).complete core.operandByte core.operandWord =
        some instruction ∧ Describes opcode core instruction := by
  by_cases prefixed : opcode = 0xCB
  · subst prefixed
    exact ⟨rfl, .ofExtension core.operandByte, rfl, describes_ofExtension core⟩
  · exact exists_describes_of_plain core opcode defined prefixed

end Opcode

end GameBoy.Cpu
