import GameBoy.Cpu.Arithmetic

/-!
# Instructions

An instruction carries its operands: what its encoding spells in further bytes
is already part of it. The module also gives every instruction its cost in
clock cycles, which depends on the machine only through whether a branch is
taken.
-/

namespace GameBoy.Cpu

/-- A byte operand: a register, or the memory cell at `hl`. -/
inductive Operand where
  | b
  | c
  | d
  | e
  | h
  | l
  | atHl
  | a
  deriving DecidableEq, Repr

/-- A pointer register. Two forms move `hl` after it was used. -/
inductive Pointer where
  | bc
  | de
  | hlIncrement
  | hlDecrement
  deriving DecidableEq, Repr

/-- When a branch is taken. -/
inductive Condition where
  | always
  | nonzero
  | zero
  | noCarry
  | carry
  deriving DecidableEq, Repr

/-- Whether the flags meet the condition. -/
def Condition.holds (condition : Condition) (registers : Registers) : Bool :=
  match condition with
  | .always => true
  | .nonzero => !registers.flag .zero
  | .zero => registers.flag .zero
  | .noCarry => !registers.flag .carry
  | .carry => registers.flag .carry

/-- An instruction with its operands. -/
inductive Instruction where
  | nop
  | stop
  | halt
  | disableInterrupts
  | enableInterrupts
  | load (target source : Operand)
  | loadByte (target : Operand) (value : Byte)
  | loadWord (target : Pair) (value : Word)
  | storeAt (pointer : Pointer)
  | fetchAt (pointer : Pointer)
  | storeSp (address : Word)
  | storePage (offset : Byte)
  | fetchPage (offset : Byte)
  | storePageC
  | fetchPageC
  | store (address : Word)
  | fetch (address : Word)
  | loadSpHl
  | loadHlSp (displacement : Byte)
  | push (pair : Pair)
  | pop (pair : Pair)
  | accumulate (operation : Operation) (source : Operand)
  | accumulateByte (operation : Operation) (value : Byte)
  | increment (target : Operand)
  | decrement (target : Operand)
  | incrementPair (target : Pair)
  | decrementPair (target : Pair)
  | addHl (source : Pair)
  | addSp (displacement : Byte)
  | shiftA (shift : Shift)
  | adjustDecimal
  | complement
  | setCarry
  | complementCarry
  | jumpRelative (condition : Condition) (displacement : Byte)
  | jump (condition : Condition) (target : Word)
  | jumpHl
  | call (condition : Condition) (target : Word)
  | ret (condition : Condition)
  | returnEnabling
  | restart (target : Word)
  | shift (shift : Shift) (target : Operand)
  | testBit (index : Fin 8) (source : Operand)
  | resetBit (index : Fin 8) (target : Operand)
  | setBit (index : Fin 8) (target : Operand)

/-- A cost that depends on whether the operand is the memory cell at `hl`. -/
def Operand.cost (operand : Operand) (register memory : Nat) : Nat :=
  if operand = .atHl then memory else register

namespace Instruction

/-- The condition under which a branch is taken. -/
def condition : Instruction → Condition
  | .jumpRelative condition _ => condition
  | .jump condition _ => condition
  | .call condition _ => condition
  | .ret condition => condition
  | _ => .always

/-- Cost in clock cycles. -/
def cost (taken : Bool) : Instruction → Nat
  | .nop | .stop | .halt | .disableInterrupts | .enableInterrupts => 4
  | .load target source => if target = .atHl ∨ source = .atHl then 8 else 4
  | .loadByte target _ => target.cost 8 12
  | .loadWord _ _ => 12
  | .storeAt _ | .fetchAt _ => 8
  | .storeSp _ => 20
  | .storePage _ | .fetchPage _ => 12
  | .storePageC | .fetchPageC => 8
  | .store _ | .fetch _ => 16
  | .loadSpHl => 8
  | .loadHlSp _ => 12
  | .push _ => 16
  | .pop _ => 12
  | .accumulate _ source => source.cost 4 8
  | .accumulateByte _ _ => 8
  | .increment target | .decrement target => target.cost 4 12
  | .incrementPair _ | .decrementPair _ | .addHl _ => 8
  | .addSp _ => 16
  | .shiftA _ | .adjustDecimal | .complement | .setCarry | .complementCarry => 4
  | .jumpRelative _ _ => if taken then 12 else 8
  | .jump _ _ => if taken then 16 else 12
  | .jumpHl => 4
  | .call _ _ => if taken then 24 else 12
  | .ret condition => if condition = .always then 16 else if taken then 20 else 8
  | .returnEnabling | .restart _ => 16
  | .shift _ target => target.cost 8 16
  | .testBit _ source => source.cost 8 12
  | .resetBit _ target | .setBit _ target => target.cost 8 16

/-- Every instruction takes at least one machine cycle. -/
theorem four_le_cost (taken : Bool) (instruction : Instruction) :
    4 ≤ instruction.cost taken := by
  cases instruction <;> simp only [cost, Operand.cost] <;> (repeat' split) <;> decide

/-- Costs are whole machine cycles. -/
theorem four_dvd_cost (taken : Bool) (instruction : Instruction) :
    4 ∣ instruction.cost taken := by
  cases instruction <;> simp only [cost, Operand.cost] <;> (repeat' split) <;> decide

/-- No instruction takes longer than a taken call. -/
theorem cost_le (taken : Bool) (instruction : Instruction) :
    instruction.cost taken ≤ 24 := by
  cases instruction <;> simp only [cost, Operand.cost] <;> (repeat' split) <;> decide

end Instruction

end GameBoy.Cpu
