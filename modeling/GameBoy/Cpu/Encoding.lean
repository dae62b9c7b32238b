import GameBoy.Cpu.Instruction

/-!
# Instruction encoding

An opcode is read as octal digits: the quarter of the opcode space, a row and a
column. Rows and columns name operands, operations and conditions; the first
and the last quarter are irregular. The opcode decides how many operand bytes
follow it. Eleven opcodes are undefined.
-/

namespace GameBoy.Cpu

/-- What an opcode asks for: nothing more, one operand byte, or two operand
bytes that form a word with the low byte first. -/
inductive Form where
  | inherent (instruction : Instruction)
  | byte (instruction : Byte → Instruction)
  | word (instruction : Word → Instruction)
  | undefined

/-- Number of bytes from the opcode to the end of the instruction. -/
def Form.length : Form → Nat
  | .inherent _ => 1
  | .byte _ => 2
  | .word _ => 3
  | .undefined => 1

namespace Opcode

/-- The middle octal digit of an opcode. -/
def row (opcode : Byte) : Fin 8 := ⟨opcode.toNat / 8 % 8, by omega⟩

/-- The last octal digit of an opcode. -/
def column (opcode : Byte) : Fin 8 := ⟨opcode.toNat % 8, by omega⟩

/-- Opcodes that name no instruction. -/
def undefined : List Byte :=
  [0xD3, 0xDB, 0xDD, 0xE3, 0xE4, 0xEB, 0xEC, 0xED, 0xF4, 0xFC, 0xFD]

end Opcode

/-- Byte operands in encoding order. -/
def Operand.ofIndex : Fin 8 → Operand
  | 0 => .b
  | 1 => .c
  | 2 => .d
  | 3 => .e
  | 4 => .h
  | 5 => .l
  | 6 => .atHl
  | 7 => .a

/-- Accumulator operations in encoding order. -/
def Operation.ofIndex : Fin 8 → Operation
  | 0 => .add
  | 1 => .adc
  | 2 => .sub
  | 3 => .sbc
  | 4 => .and
  | 5 => .xor
  | 6 => .or
  | 7 => .compare

/-- Shifts in encoding order. -/
def Shift.ofIndex : Fin 8 → Shift
  | 0 => .rotateLeft
  | 1 => .rotateRight
  | 2 => .rotateLeftThroughCarry
  | 3 => .rotateRightThroughCarry
  | 4 => .left
  | 5 => .rightArithmetic
  | 6 => .swap
  | 7 => .rightLogical

/-- The pair that two neighbouring rows share. -/
def Pair.ofRow : Fin 8 → Pair
  | 0 | 1 => .bc
  | 2 | 3 => .de
  | 4 | 5 => .hl
  | 6 | 7 => .sp

/-- The pair that two neighbouring rows share on the stack. -/
def Pair.ofStackRow : Fin 8 → Pair
  | 0 | 1 => .bc
  | 2 | 3 => .de
  | 4 | 5 => .hl
  | 6 | 7 => .af

/-- The pointer that two neighbouring rows share. -/
def Pointer.ofRow : Fin 8 → Pointer
  | 0 | 1 => .bc
  | 2 | 3 => .de
  | 4 | 5 => .hlIncrement
  | 6 | 7 => .hlDecrement

/-- Conditions repeat after four rows. -/
def Condition.ofRow : Fin 8 → Condition
  | 0 | 4 => .nonzero
  | 1 | 5 => .zero
  | 2 | 6 => .noCarry
  | 3 | 7 => .carry

/-- The instruction spelled by the byte behind the opcode `0xCB`. -/
def Instruction.ofExtension (extension : Byte) : Instruction :=
  let row := Opcode.row extension
  let operand := Operand.ofIndex (Opcode.column extension)
  if extension < 0x40 then .shift (Shift.ofIndex row) operand
  else if extension < 0x80 then .testBit row operand
  else if extension < 0xC0 then .resetBit row operand
  else .setBit row operand

/-- Opcodes below `0x40`: loads of constants, increments, relative jumps and
operations on the accumulator alone. -/
def Form.ofFirstQuarter (row column : Fin 8) : Form :=
  match column with
  | 0 =>
    match row with
    | 0 => .inherent .nop
    | 1 => .word .storeSp
    | 2 => .byte fun _ => .stop
    | 3 => .byte (.jumpRelative .always)
    | 4 | 5 | 6 | 7 => .byte (.jumpRelative (Condition.ofRow row))
  | 1 =>
    if row.val % 2 = 0 then .word (.loadWord (Pair.ofRow row))
    else .inherent (.addHl (Pair.ofRow row))
  | 2 =>
    if row.val % 2 = 0 then .inherent (.storeAt (Pointer.ofRow row))
    else .inherent (.fetchAt (Pointer.ofRow row))
  | 3 =>
    if row.val % 2 = 0 then .inherent (.incrementPair (Pair.ofRow row))
    else .inherent (.decrementPair (Pair.ofRow row))
  | 4 => .inherent (.increment (Operand.ofIndex row))
  | 5 => .inherent (.decrement (Operand.ofIndex row))
  | 6 => .byte (.loadByte (Operand.ofIndex row))
  | 7 =>
    match row with
    | 0 | 1 | 2 | 3 => .inherent (.shiftA (Shift.ofIndex row))
    | 4 => .inherent .adjustDecimal
    | 5 => .inherent .complement
    | 6 => .inherent .setCarry
    | 7 => .inherent .complementCarry

/-- Opcodes from `0xC0`: branches, the stack, the high page and operations with
a constant. -/
def Form.ofLastQuarter (row column : Fin 8) : Form :=
  match column with
  | 0 =>
    match row with
    | 0 | 1 | 2 | 3 => .inherent (.ret (Condition.ofRow row))
    | 4 => .byte .storePage
    | 5 => .byte .addSp
    | 6 => .byte .fetchPage
    | 7 => .byte .loadHlSp
  | 1 =>
    match row with
    | 0 | 2 | 4 | 6 => .inherent (.pop (Pair.ofStackRow row))
    | 1 => .inherent (.ret .always)
    | 3 => .inherent .returnEnabling
    | 5 => .inherent .jumpHl
    | 7 => .inherent .loadSpHl
  | 2 =>
    match row with
    | 0 | 1 | 2 | 3 => .word (.jump (Condition.ofRow row))
    | 4 => .inherent .storePageC
    | 5 => .word .store
    | 6 => .inherent .fetchPageC
    | 7 => .word .fetch
  | 3 =>
    match row with
    | 0 => .word (.jump .always)
    | 1 => .byte .ofExtension
    | 2 | 3 | 4 | 5 => .undefined
    | 6 => .inherent .disableInterrupts
    | 7 => .inherent .enableInterrupts
  | 4 =>
    match row with
    | 0 | 1 | 2 | 3 => .word (.call (Condition.ofRow row))
    | 4 | 5 | 6 | 7 => .undefined
  | 5 =>
    match row with
    | 0 | 2 | 4 | 6 => .inherent (.push (Pair.ofStackRow row))
    | 1 => .word (.call .always)
    | 3 | 5 | 7 => .undefined
  | 6 => .byte (.accumulateByte (Operation.ofIndex row))
  | 7 => .inherent (.restart (8 * UInt16.ofNat row))

/-- What an opcode asks for. -/
def decode (opcode : Byte) : Form :=
  let row := Opcode.row opcode
  let column := Opcode.column opcode
  if opcode < 0x40 then .ofFirstQuarter row column
  else if opcode < 0x80 then
    if opcode = 0x76 then .inherent .halt
    else .inherent (.load (Operand.ofIndex row) (Operand.ofIndex column))
  else if opcode < 0xC0 then
    .inherent (.accumulate (Operation.ofIndex row) (Operand.ofIndex column))
  else .ofLastQuarter row column

/-- Whether an opcode names no instruction. -/
def Form.isUndefined : Form → Bool
  | .undefined => true
  | _ => false

/-- The opcodes that name no instruction are exactly the listed ones. -/
theorem isUndefined_decode (opcode : Byte) :
    (decode opcode).isUndefined = Opcode.undefined.contains opcode := by
  have each : ∀ value : Fin 256, (decode (UInt8.ofNat value)).isUndefined =
      Opcode.undefined.contains (UInt8.ofNat value) := by decide +kernel
  simpa using each ⟨opcode.toNat, opcode.toNat_lt⟩

end GameBoy.Cpu
