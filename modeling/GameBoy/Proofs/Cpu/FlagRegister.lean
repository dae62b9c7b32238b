import GameBoy.Proofs.Console.Access

/-!
# The flag register

Four bits of `f` are flags, and the four below them are never set. Setting one flag keeps all
other bits of `f`, so this depends on the history: it holds at power-on and where a boot
program hands over, and each of the operations that change `f` keeps it, whatever the bus
answers. Hence `f` and the lower byte of the pair `af` are the same byte.
-/

namespace GameBoy.Cpu

/-- No bit of `f` is set but those of flags. -/
def Registers.FlagsOnly (registers : Registers) : Prop := registers.f &&& 0x0F = 0

namespace Registers

variable {registers : Registers}

/-! ## Registers -/

theorem FlagsOnly.of_f {other : Registers} (clean : registers.FlagsOnly)
    (same : other.f = registers.f) : other.FlagsOnly := by
  rw [FlagsOnly, same]
  exact clean

theorem flagsOnly_toByte (flags : Flags) : flags.toByte &&& 0x0F = 0 := by
  have covered : flagBits &&& 0x0F = 0 := rfl
  rw [← Flags.toByte_and_flagBits, UInt8.and_assoc, covered, UInt8.and_zero]

theorem FlagsOnly.setFlag (clean : registers.FlagsOnly) (flag : Flag) (value : Bool) :
    (registers.setFlag flag value).FlagsOnly := by
  have high : flag.mask &&& 0x0F = 0 := by
    cases flag <;> rfl
  simp only [FlagsOnly, Registers.setFlag]
  cases value with
  | true =>
      rw [if_pos rfl, Byte.and_or_distrib_right, high, UInt8.or_zero]
      exact clean
  | false =>
      rw [if_neg Bool.false_ne_true, UInt8.and_assoc, UInt8.and_comm (~~~flag.mask),
        ← UInt8.and_assoc, clean, UInt8.zero_and]

theorem FlagsOnly.setPair (clean : registers.FlagsOnly) (pair : Pair) (value : Word) :
    (registers.setPair pair value).FlagsOnly := by
  cases pair with
  | af =>
      have covered : flagBits &&& 0x0F = 0 := rfl
      simp only [FlagsOnly, Registers.setPair]
      rw [UInt8.and_assoc, covered, UInt8.and_zero]
  | bc | de | hl | sp => exact clean

theorem flagsOnly_setFlags (registers : Registers) (flags : Flags) :
    (registers.setFlags flags).FlagsOnly :=
  flagsOnly_toByte flags

theorem flagsOnly_accumulate (registers : Registers) (operation : Operation) (operand : Byte) :
    (registers.accumulate operation operand).FlagsOnly :=
  flagsOnly_toByte _

theorem FlagsOnly.addToHl (clean : registers.FlagsOnly) (value : Word) :
    (registers.addToHl value).FlagsOnly :=
  (((clean.setFlag .subtract _).setFlag .halfCarry _).setFlag .carry _).setPair .hl _

theorem FlagsOnly.adjustDecimal (clean : registers.FlagsOnly) :
    registers.adjustDecimal.FlagsOnly := by
  have adjusted := ((clean.setFlag .carry
    (decimalAdjust registers.a registers.flags).flags.carry).setFlag .halfCarry false).setFlag
      .zero (decimalAdjust registers.a registers.flags).flags.zero
  exact adjusted.of_f rfl

theorem FlagsOnly.follow (clean : registers.FlagsOnly) (pointer : Pointer) :
    (registers.follow pointer).2.FlagsOnly := by
  cases pointer <;> exact clean

/-- The pair `af` shows `f` as it is. -/
theorem FlagsOnly.low_pair (clean : registers.FlagsOnly) :
    registers.f &&& flagBits = registers.f := by
  have split (byte : Byte) : byte &&& flagBits ||| byte &&& 0x0F = byte := by
    rw [← UInt8.toBitVec_inj]
    have whole : (0xF0#8 ||| 0x0F#8) = BitVec.allOnes 8 := rfl
    simp only [flagBits, UInt8.toBitVec_or, UInt8.toBitVec_and]
    exact BitVec.and_or_distrib_left.symm.trans ((congrArg _ whole).trans BitVec.and_allOnes)
  have whole := split registers.f
  rwa [clean, UInt8.or_zero] at whole

theorem FlagsOnly.pair_af (clean : registers.FlagsOnly) :
    registers.pair .af = Word.ofBytes registers.a registers.f := by
  rw [pair, clean.low_pair]

end Registers

theorem State.registers_requestInterrupts (state : State) :
    state.requestInterrupts.registers = state.registers := by
  unfold requestInterrupts
  split <;> rfl

theorem State.registers_applyEnableDelay (state : State) :
    state.applyEnableDelay.registers = state.registers := by
  unfold applyEnableDelay
  split
  · rfl
  · split <;> rfl

namespace Core

variable {β : Type} [Bus β] {core : Core β}

/-! ## Operations -/

theorem registers_fetchByte (core : Core β) :
    core.fetchByte.2.registers =
      { core.registers with pc := core.fetchByte.2.registers.pc } := by
  simp only [fetchByte]
  split <;> rfl

theorem registers_fetchOperands (core : Core β) (form : Form) :
    (core.fetchOperands form).2.registers =
      { core.registers with pc := (core.fetchOperands form).2.registers.pc } := by
  cases form with
  | inherent instruction | undefined => rfl
  | byte instruction => exact core.registers_fetchByte
  | word instruction =>
      have low := core.registers_fetchByte
      have high := core.fetchByte.2.registers_fetchByte
      rw [low] at high
      exact high

theorem registers_lookedAround (core : Core β) :
    core.lookedAround.registers = core.registers := by
  unfold lookedAround
  split <;> rfl

/-- Until an instruction is executed, only the program counter moves. -/
theorem registers_of_fetched {opened fetched : Core β} {opcode : Byte} {form : Form}
    {found : Option Instruction} (read : core.lookedAround.fetchByte = (opcode, opened))
    (operands : opened.fetchOperands form = (found, fetched)) :
    fetched.registers = { core.registers with pc := fetched.registers.pc } := by
  have first := core.lookedAround.registers_fetchByte
  have second := opened.registers_fetchOperands form
  rw [read, registers_lookedAround] at first
  rw [operands, first] at second
  exact second

theorem cpu_readOperand (core : Core β) (operand : Operand) :
    (core.readOperand operand).2.cpu = core.cpu := by
  cases operand <;> rfl

theorem flagsOnly_readOperand (clean : core.registers.FlagsOnly) (operand : Operand) :
    (core.readOperand operand).2.registers.FlagsOnly :=
  clean.of_f (congrArg (·.registers.f) (core.cpu_readOperand operand))

theorem flagsOnly_writeOperand (clean : core.registers.FlagsOnly) (operand : Operand)
    (value : Byte) : (core.writeOperand operand value).registers.FlagsOnly := by
  cases operand <;> exact clean

theorem f_call (core : Core β) (target : Word) :
    (core.call target).registers.f = core.registers.f := rfl

theorem f_dispatch (core : Core β) (interrupt : Interrupt) :
    (core.dispatch interrupt).registers.f = core.registers.f := by
  simp only [dispatch, push, pushByte]
  rfl

theorem flagsOnly_halt (clean : core.registers.FlagsOnly) : core.halt.registers.FlagsOnly := by
  simp only [halt]
  split
  · exact clean
  · split <;> exact clean

theorem flagsOnly_awaitButton (clean : core.registers.FlagsOnly) :
    core.awaitButton.registers.FlagsOnly := by
  simp only [awaitButton]
  split <;> exact clean

/-! ## Instructions and steps -/

/-- No instruction sets a bit that is no flag: one case a constructor. -/
theorem flagsOnly_execute (clean : core.registers.FlagsOnly) (instruction : Instruction) :
    (core.execute instruction).registers.FlagsOnly := by
  cases instruction with
  | halt => exact flagsOnly_halt clean
  | enableInterrupts => exact clean.of_f (congrArg Registers.f (State.registers_requestInterrupts _))
  | load target source =>
      exact flagsOnly_writeOperand (flagsOnly_readOperand clean source) target _
  | loadByte target value => exact flagsOnly_writeOperand clean target value
  | resetBit index target | setBit index target =>
      exact flagsOnly_writeOperand (flagsOnly_readOperand clean target) target _
  | increment target | decrement target =>
      have read := flagsOnly_readOperand clean target
      refine flagsOnly_writeOperand ?_ target _
      exact ((read.setFlag .zero _).setFlag .subtract _).setFlag .halfCarry _
  | shift shift target =>
      refine flagsOnly_writeOperand ?_ target _
      exact Registers.flagsOnly_setFlags _ _
  | testBit index source =>
      have read := flagsOnly_readOperand clean source
      exact ((read.setFlag .zero _).setFlag .subtract _).setFlag .halfCarry _
  | loadWord target value | incrementPair target | decrementPair target =>
      exact clean.setPair target _
  | pop pair =>
      have popped : core.pop.2.registers.FlagsOnly := clean
      exact popped.setPair pair _
  | loadSpHl => exact clean.setPair .sp _
  | storeAt pointer => exact clean.follow pointer
  | fetchAt pointer => exact clean.follow pointer
  | loadHlSp displacement => exact (Registers.flagsOnly_setFlags _ _).setPair .hl _
  | addSp displacement => exact (Registers.flagsOnly_setFlags _ _).setPair .sp _
  | accumulate operation source => exact Registers.flagsOnly_accumulate _ _ _
  | accumulateByte operation value => exact Registers.flagsOnly_accumulate _ _ _
  | addHl source => exact clean.addToHl _
  | shiftA shift => exact (Registers.flagsOnly_setFlags core.registers _).of_f rfl
  | adjustDecimal => exact clean.adjustDecimal
  | complement => exact ((clean.setFlag .subtract true).setFlag .halfCarry true).of_f rfl
  | setCarry | complementCarry =>
      exact ((clean.setFlag .subtract false).setFlag .halfCarry false).setFlag .carry _
  | call condition target =>
      simp only [execute]
      split
      · exact clean.of_f (core.f_call target)
      · exact clean
  | restart target => exact clean.of_f (core.f_call target)
  | jumpRelative condition displacement | jump condition target | ret condition =>
      simp only [execute]
      split <;> exact clean
  | nop | stop | disableInterrupts | storeSp address | storePage offset | fetchPage offset
  | storePageC | fetchPageC | store address | fetch address | push pair | jumpHl
  | returnEnabling => exact clean

theorem flagsOnly_step (clean : core.registers.FlagsOnly) :
    core.step.2.registers.FlagsOnly := by
  have outcome := core.stepResult
  have around : core.lookedAround.registers.FlagsOnly := by
    rw [registers_lookedAround]
    exact clean
  generalize core.activity = activity at outcome
  generalize core.step = result at outcome ⊢
  cases outcome with
  | dead => exact clean
  | stopped => exact flagsOnly_awaitButton clean
  | dispatched => exact around.of_f (core.lookedAround.f_dispatch _)
  | halted => exact around
  | @undefined _ _ _ _ _ _ fetched read unnamed =>
      have ready : fetched.registers.FlagsOnly :=
        clean.of_f (by rw [registers_of_fetched read unnamed])
      exact ready
  | @executed _ _ _ _ _ _ fetched read instruction named =>
      have ready : fetched.registers.FlagsOnly :=
        clean.of_f (by rw [registers_of_fetched read named])
      have executed := flagsOnly_execute ready instruction
      exact executed.of_f (congrArg Registers.f (State.registers_applyEnableDelay _))

/-- What a push of `af` stores, in a step: the accumulator, and below it the flag register as
it is. -/
theorem accesses_step_of_push {core : Core (Recorded β)} (clean : core.registers.FlagsOnly)
    (pushes : core.activity = .executed (.push .af)) :
    core.step.2.accesses = core.accesses ++
      [.write (core.registers.sp - 1) core.registers.a,
        .write (core.registers.sp - 2) core.registers.f, .elapse 16] := by
  have outcome := core.stepResult
  rw [pushes] at outcome
  generalize core.step = result at outcome ⊢
  cases outcome with
  | @executed _ _ _ _ _ _ fetched read _ named =>
      have before := accesses_of_fetched read named
      obtain ⟨a, f, sp⟩ : fetched.registers.a = core.registers.a ∧
          fetched.registers.f = core.registers.f ∧ fetched.registers.sp = core.registers.sp := by
        rw [registers_of_fetched read named]
        exact ⟨rfl, rfl, rfl⟩
      have below : core.registers.sp - 1 - 1 = core.registers.sp - 2 := by grind
      have stored : (fetched.push (fetched.registers.pair .af)).accesses =
          core.accesses ++ [.write (core.registers.sp - 1) core.registers.a,
            .write (core.registers.sp - 2) core.registers.f] := by
        rw [accesses_push, before, (clean.of_f f).pair_af, Word.high_ofBytes, Word.low_ofBytes,
          a, f, sp, UInt16.sub_add_cancel, below]
      exact (congrArg (· ++ [.elapse 16]) stored).trans (List.append_assoc _ _ _)

end Core

/-- What a step keeps, a run keeps. -/
theorem flagsOnly_run {β : Type} [Bus β] {start cpu : State} {activities : List Activity}
    (run : Run β start activities cpu) (clean : start.registers.FlagsOnly) :
    cpu.registers.FlagsOnly := by
  induction run with
  | nil => exact clean
  | cons core here rest ih =>
      subst here
      exact ih (Core.flagsOnly_step clean)

/-- No bit of `f` but the flags is ever set. On every bus, whatever it answers, and after every
step of every run from power-on, or from where a boot program hands over, whether the step
succeeds or fails: the lower four bits of `f` are zero, so that the pair `af` shows `f` as it
is, and a step that pushes `af` stores the accumulator and that byte. A pair that is pushed
and popped as `af` sets none of the four bits either. -/
theorem low_nibble_clear {β : Type} [Bus β] {start cpu : State}
    (initial : start = .powerOn ∨ start = .afterBoot) {activities : List Activity}
    (run : Run β start activities cpu) :
    cpu.registers.f &&& 0x0F = 0 ∧
      cpu.registers.pair .af = Word.ofBytes cpu.registers.a cpu.registers.f ∧
      (∀ core : Core (Recorded β), core.cpu = cpu → core.activity = .executed (.push .af) →
        core.step.2.accesses = core.accesses ++
          [.write (cpu.registers.sp - 1) cpu.registers.a,
            .write (cpu.registers.sp - 2) cpu.registers.f, .elapse 16]) ∧
      ∀ core : Core β, core.cpu = cpu → ∀ pair : Pair,
        ((core.execute (.push pair)).execute (.pop .af)).registers.f &&& 0x0F = 0 := by
  have fresh : start.registers.FlagsOnly := by
    rcases initial with rfl | rfl <;> rfl
  have clean : cpu.registers.FlagsOnly := flagsOnly_run run fresh
  refine ⟨clean, clean.pair_af, ?_, ?_⟩
  · rintro core rfl pushes
    exact Core.accesses_step_of_push clean pushes
  · rintro core rfl pair
    exact Core.flagsOnly_execute (Core.flagsOnly_execute clean (.push pair)) (.pop .af)

/-- A board whose program pops `af` from memory in which all bits are set, and pushes it. -/
def poppingBoard : Board where
  cartridge := some (.ofImage
    (((Array.replicate 0x150 0).setIfInBounds 0x100 0xF1).setIfInBounds 0x101 0xF5)
    (by decide +kernel))
  highRam := Vector.replicate 0x7F 0xFF

/-- Of the byte that is popped only the flags arrive, and only they are pushed. -/
theorem low_nibble_clear_of_popped :
    let popping : Core Board := { cpu := .afterBoot, bus := poppingBoard }
    let pushing : Core (Recorded Board) :=
      { cpu := popping.step.2.cpu, bus := { bus := popping.step.2.bus } }
    popping.activity = .executed (.pop .af) ∧ poppingBoard.read popping.registers.sp = 0xFF ∧
      pushing.registers.f = 0xF0 ∧ pushing.registers.f &&& 0x0F = 0 ∧
        pushing.step.2.accesses = [.write 0xFFFF 0x00, .write 0xFFFE 0xF0, .elapse 16] := by
  intro popping pushing
  have pops : popping.activity = .executed (.pop .af) := by decide +kernel
  have full : poppingBoard.read popping.registers.sp = 0xFF := by decide +kernel
  have flags : pushing.registers.f = 0xF0 := by decide +kernel
  have pushes : pushing.activity = .executed (.push .af) := by decide +kernel
  have run : Run Board .afterBoot [popping.activity] pushing.cpu :=
    .cons popping rfl (.nil popping.step.2.cpu)
  obtain ⟨clear, -, stores, -⟩ := low_nibble_clear (.inr rfl) run
  have stored := stores pushing rfl pushes
  have a : pushing.registers.a = 0x00 := by decide +kernel
  have sp : pushing.registers.sp = 0x0000 := by decide +kernel
  refine ⟨pops, full, flags, clear, stored.trans ?_⟩
  change [Access.write (pushing.registers.sp - 1) pushing.registers.a,
    .write (pushing.registers.sp - 2) pushing.registers.f, .elapse 16] = _
  rw [a, flags, sp]
  decide

end GameBoy.Cpu
