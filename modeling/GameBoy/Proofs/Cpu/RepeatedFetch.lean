import GameBoy.Proofs.Cpu.Effects
import GameBoy.Proofs.Cpu.Permission
import GameBoy.Proofs.Cpu.Reads

/-!
# The repeated fetch

A halt that does not wait leaves a latch behind, and the next fetch does not move past the byte
that it reads. No other instruction sets the latch. The next step takes it back with its first
fetch, or with the dispatch of an interrupt, so that it holds for one step. In this step the
byte is read as the opcode, and once more as what follows: it is the step that the processor
would make from one address earlier if the byte stood there as well.
-/

namespace GameBoy.Cpu

open Memory

/-- The processor one address earlier, with nothing to repeat. -/
def State.rewound (state : State) : State :=
  { state with
    registers := { state.registers with pc := state.registers.pc - 1 }
    repeatFetch := false }

/-- Where a fetch is to be repeated, it comes next: the processor does not wait, and its
program has not ended. -/
def State.Imminent (state : State) : Prop :=
  state.repeatFetch = true →
    state.halted = false ∧ state.stopped = false ∧ state.fault = none

/-- A processor that waits or has ended its program has nothing to repeat. -/
theorem State.Imminent.clear {state : State} (imminent : state.Imminent)
    (waits : state.halted = true ∨ state.stopped = true ∨ state.fault ≠ none) :
    state.repeatFetch = false := by
  by_contra set
  obtain ⟨awake, running, alive⟩ := imminent (Bool.not_eq_false _ ▸ set)
  simp [awake, running, alive] at waits

namespace Core

section Latch

variable {β : Type} [Bus β]

/-- The core when the instruction that comes next is executed. -/
def fetched (core : Core β) : Core β :=
  (core.lookedAround.fetchByte.2.fetchOperands (decode core.lookedAround.fetchByte.1)).2

/-- The next step is a halt that does not wait, for interrupts are not permitted and one is
pending. -/
def HaltsInVain (core : Core β) : Prop :=
  core.activity = .executed .halt ∧ core.cpu.enabled = false ∧
    (Bus.pending core.fetched.bus).1.isSome = true

variable (core : Core β)

/-! ## Fetching and executing -/

theorem repeatFetch_fetchByte : core.fetchByte.2.cpu.repeatFetch = false := by
  rw [fetchByte_eq]
  rfl

/-- Operands are not fetched twice. -/
theorem repeatFetch_fetchOperands (single : core.cpu.repeatFetch = false) (form : Form) :
    (core.fetchOperands form).2.cpu.repeatFetch = false := by
  cases form with
  | inherent instruction | undefined => exact single
  | byte instruction => exact core.repeatFetch_fetchByte
  | word instruction => exact core.fetchByte.2.repeatFetch_fetchByte

theorem fetched_eq {opcode : Byte} {opened fetched : Core β} {found : Option Instruction}
    (read : core.lookedAround.fetchByte = (opcode, opened))
    (operands : opened.fetchOperands (decode opcode) = (found, fetched)) :
    core.fetched = fetched := by
  rw [Core.fetched, read, operands]

theorem repeatFetch_fetched : core.fetched.cpu.repeatFetch = false :=
  repeatFetch_fetchOperands _ (repeatFetch_fetchByte _) _

theorem control_fetched : core.fetched.cpu.control = core.lookedAround.cpu.control :=
  (control_fetchOperands _ _).trans (control_fetchByte _)

theorem enabled_fetched : core.fetched.cpu.enabled = core.cpu.enabled := by
  have same := congrArg State.enabled core.control_fetched
  rw [control_lookedAround] at same
  exact same

theorem repeatFetch_halt :
    core.halt.cpu.repeatFetch =
      (core.cpu.repeatFetch || !core.cpu.enabled && core.pending.1.isSome) := by
  simp only [halt]
  cases core.cpu.enabled with
  | true => simp [modifyCpu]
  | false => cases core.pending.1 <;> simp [modifyCpu, pending]

theorem repeatFetch_writeOperand (target : Operand) (value : Byte) :
    (core.writeOperand target value).cpu.repeatFetch = core.cpu.repeatFetch := by
  cases target <;> rfl

theorem repeatFetch_readOperand (source : Operand) :
    (core.readOperand source).2.cpu.repeatFetch = core.cpu.repeatFetch := by
  cases source <;> rfl

/-- Only a halt sets the latch. -/
theorem repeatFetch_execute {instruction : Instruction} (other : instruction ≠ .halt) :
    (core.execute instruction).cpu.repeatFetch = core.cpu.repeatFetch := by
  cases instruction with
  | halt => exact absurd rfl other
  | load target source =>
      exact (repeatFetch_writeOperand _ target _).trans (core.repeatFetch_readOperand source)
  | increment target | decrement target | shift shift target | resetBit index target
  | setBit index target =>
      exact (repeatFetch_writeOperand _ target _).trans (core.repeatFetch_readOperand target)
  | loadByte target value => exact core.repeatFetch_writeOperand target value
  | accumulate operation source | testBit index source =>
      exact core.repeatFetch_readOperand source
  | enableInterrupts =>
      simp only [execute, modifyCpu, State.requestInterrupts]
      split <;> rfl
  | jumpRelative condition displacement | jump condition target | call condition target
  | ret condition =>
      simp only [execute]
      split <;> rfl
  | _ => rfl

/-- The end of an instruction concerns interrupts only. -/
theorem applyEnableDelay_keeps (state : State) :
    state.applyEnableDelay.repeatFetch = state.repeatFetch ∧
      state.applyEnableDelay.halted = state.halted ∧
      state.applyEnableDelay.stopped = state.stopped ∧
      state.applyEnableDelay.fault = state.fault := by
  unfold State.applyEnableDelay
  split
  · exact ⟨rfl, rfl, rfl, rfl⟩
  · split <;> exact ⟨rfl, rfl, rfl, rfl⟩

theorem repeatFetch_awaitButton : core.awaitButton.cpu.repeatFetch = core.cpu.repeatFetch := by
  unfold awaitButton
  simp only
  split <;> rfl

theorem repeatFetch_lookedAround :
    core.lookedAround.cpu.repeatFetch = core.cpu.repeatFetch := by
  rw [lookedAround_eq]

/-! ## Steps -/

/-- A step sets the latch exactly if it is a halt that does not wait. -/
theorem repeatFetch_step_iff {core : Core β} (imminent : core.cpu.Imminent) :
    core.step.2.cpu.repeatFetch = true ↔ core.HaltsInVain := by
  have outcome := core.stepResult
  have single := core.repeatFetch_fetched
  unfold HaltsInVain
  generalize core.activity = activity at outcome ⊢
  generalize core.step = result at outcome ⊢
  cases outcome with
  | dead latched =>
      have clear := imminent.clear (.inr (.inr (by simp [latched])))
      simp [clear]
  | stopped alive stopped =>
      have clear := imminent.clear (.inr (.inl stopped))
      simp [repeatFetch_awaitButton, clear]
  | @dispatched alive running interrupt pending enabled =>
      have clear : ((core.lookedAround.dispatch interrupt).elapse
          dispatchCycles).cpu.repeatFetch = false := rfl
      simp [clear]
  | halted alive running unserved halted =>
      have still : core.lookedAround.cpu.repeatFetch = core.cpu.repeatFetch :=
        core.repeatFetch_lookedAround
      rw [lookedAround_eq] at halted
      have clear := imminent.clear (.inl (Bool.and_eq_true_iff.mp halted).1)
      have kept : (core.lookedAround.elapse idleCycles).cpu.repeatFetch = false :=
        still.trans clear
      simp [kept]
  | undefined alive running unserved awake read unnamed =>
      rw [fetched_eq core read unnamed] at single
      simp [raiseFault, modifyCpu, report, single]
  | @executed alive running unserved awake opcode opened fetched read instruction named =>
      have same := core.enabled_fetched
      rw [core.fetched_eq read named] at single same ⊢
      change (fetched.execute instruction).cpu.applyEnableDelay.repeatFetch = true ↔ _
      rw [(applyEnableDelay_keeps _).1]
      by_cases halts : instruction = .halt
      · subst halts
        change fetched.halt.cpu.repeatFetch = true ↔ _
        rw [repeatFetch_halt, single, same]
        simp [pending]
      · rw [fetched.repeatFetch_execute halts, single]
        simp [halts]

/-- Behind a halt that does not wait the next step fetches or serves an interrupt. -/
theorem imminent_step {core : Core β} (imminent : core.cpu.Imminent) :
    core.step.2.cpu.Imminent := by
  intro set
  obtain ⟨halts, disabled, pending⟩ := (repeatFetch_step_iff imminent).mp set
  have outcome := core.stepResult
  rw [halts] at outcome
  generalize core.step = result at outcome ⊢
  cases outcome with
  | @executed alive running unserved awake opcode opened fetched read instruction named =>
      have around := core.control_fetched
      have off := core.enabled_fetched
      rw [core.fetched_eq read named] at pending around off
      have asleep : ¬ (fetched.cpu.enabled || fetched.pending.1.isNone) = true := by
        have found : fetched.pending.1.isSome = true := pending
        simp [off, disabled, Option.isNone_eq_false_iff.mpr found]
      have halting : (fetched.execute .halt).cpu.control = core.lookedAround.cpu.control :=
        ((fetched.control_execute .halt).trans (if_neg asleep)).trans around
      have looked := core.control_lookedAround
      obtain ⟨-, keptHalted, keptStopped, keptFault⟩ :=
        applyEnableDelay_keeps (fetched.execute .halt).cpu
      refine ⟨?_, ?_, ?_⟩
      · exact keptHalted.trans ((congrArg State.halted halting).trans awake)
      · exact keptStopped.trans
          ((congrArg State.stopped (halting.trans looked)).trans running)
      · exact keptFault.trans ((congrArg State.fault (halting.trans looked)).trans alive)

theorem imminent_run {start final : State} {activities : List Activity}
    (run : Run β start activities final) (imminent : start.Imminent) : final.Imminent := by
  induction run with
  | nil => exact imminent
  | cons core here rest ih =>
      subst here
      exact ih (imminent_step imminent)

end Latch

/-! ## The byte that is read twice -/

section Twice

open Flat AddressSpace

/-- The processor one address earlier, where the next opcode is written as well. -/
def spelledTwice (core : Core Flat) : Core Flat :=
  { core with
    cpu := core.cpu.rewound
    bus := core.bus.poke (core.registers.pc - 1) core.opcode }

/-- An instruction to its end: it is executed, what it delays comes true, and its time
passes. -/
def finish (core : Core Flat) (instruction : Instruction) : Except Fault Nat × Core Flat :=
  let cycles := instruction.cost (instruction.condition.holds core.registers)
  (.ok cycles, ((core.execute instruction).modifyCpu State.applyEnableDelay).elapse cycles)

theorem Alike.finish {place : Word} {left right : Core Flat}
    (alike : Alike (SameBut place) left right) {instruction : Instruction}
    (unread : place ∉ instruction.reads left.registers) (enable : place ≠ enableAddress)
    (request : place ≠ requestAddress) :
    AlikeWith (SameBut place) (left.finish instruction) (right.finish instruction) := by
  have executed := (alike.execute unread enable request).modifyCpu State.applyEnableDelay
  simp only [Core.finish, alike.registers]
  refine AlikeWith.mk rfl ⟨executed.cpu, executed.bus.elapse _, ?_⟩
  simp only [Core.elapse, executed.journal]
  rfl

variable {core : Core Flat}

/-- A fetch that is repeated leaves the processor where a first fetch from one address earlier
would. -/
theorem fetchByte_of_repeated (repeats : core.cpu.repeatFetch = true) :
    let back := core.modifyCpu State.rewound
    core.fetchByte = (core.opcode, back.setPc (back.registers.pc + 1)) := by
  intro back
  have here : back.registers.pc + 1 = core.registers.pc := UInt16.sub_add_cancel _ _
  rw [here]
  simp only [fetchByte]
  rw [if_pos (show (core.read core.registers.pc).2.cpu.repeatFetch = true from repeats)]
  rfl

/-- A step that finds an opcode behind an address, and its operands behind that, executes the
instruction that they spell. -/
theorem step_of_spelled (core back : Core Flat) (alive : core.cpu.fault = none)
    (running : core.cpu.stopped = false) (awake : core.cpu.halted = false)
    (disabled : core.cpu.enabled = false) (single : back.cpu.repeatFetch = false)
    {opcode : Byte} (read : core.fetchByte = (opcode, back.setPc (back.registers.pc + 1)))
    {instruction : Instruction}
    (spelled : (decode opcode).complete back.operandByte back.operandWord = some instruction) :
    core.activity = .executed instruction ∧
      core.step =
        (back.setPc (back.registers.pc + UInt16.ofNat (decode opcode).length)).finish
          instruction := by
  have outcome := core.stepResult
  have looks := lookedAround_of_awake awake
  have behind := fetchOperands_of_single single (decode opcode)
  generalize core.activity = activity at outcome ⊢
  generalize core.step = result at outcome ⊢
  cases outcome with
  | dead latched => exact nomatch alive.symm.trans latched
  | stopped _ stopped => exact nomatch running.symm.trans stopped
  | dispatched _ _ _ enabled => exact nomatch disabled.symm.trans enabled
  | halted _ _ _ halted =>
      rw [looks] at halted
      exact nomatch awake.symm.trans halted
  | undefined _ _ _ _ found unnamed =>
      rw [looks, read] at found
      cases found
      rw [behind, spelled] at unnamed
      exact nomatch congrArg Prod.fst unnamed
  | executed _ _ _ _ found named =>
      rw [looks, read] at found
      cases found
      rw [behind, spelled] at named
      cases named
      exact ⟨rfl, rfl⟩

theorem rewound_alike (core : Core Flat) :
    Alike (SameBut (core.registers.pc - 1)) (core.modifyCpu State.rewound) core.spelledTwice :=
  ⟨rfl, core.bus.sameBut_poke _ _, rfl⟩

theorem opcode_spelledTwice (core : Core Flat) : core.spelledTwice.opcode = core.opcode :=
  (core.bus.peek_poke _ _ _).trans (if_pos rfl)

/-- The byte of an opcode is none of its operands. -/
theorem Alike.operands {place : Word} {left right : Core Flat}
    (alike : Alike (SameBut place) left right) (here : left.registers.pc = place) :
    left.operandByte = right.operandByte ∧ left.operandWord = right.operandWord := by
  subst here
  have second : left.registers.pc + 1 ≠ left.registers.pc := by simp
  have third : left.registers.pc + 2 ≠ left.registers.pc := by simp
  have byte : left.operandByte = right.operandByte := by
    rw [operandByte, operandByte, ← alike.registers, alike.bus.peek _ second]
  refine ⟨byte, ?_⟩
  rw [operandWord, operandWord, ← alike.registers, alike.bus.peek _ third, byte]

/-- A step that repeats a fetch is the step from one address earlier, on memory in which the
byte that is read twice stands twice. -/
theorem repeated_alike_spelledTwice (repeats : core.cpu.repeatFetch = true)
    (alive : core.cpu.fault = none) (running : core.cpu.stopped = false)
    (awake : core.cpu.halted = false) (disabled : core.cpu.enabled = false)
    (defined : core.opcode ∉ Opcode.undefined)
    (request : core.registers.pc - 1 ≠ requestAddress)
    (enable : core.registers.pc - 1 ≠ enableAddress)
    (unread : ∀ instruction, core.activity = .executed instruction →
      core.registers.pc - 1 ∉ core.dataReads instruction) :
    ∃ instruction cycles, core.activity = .executed instruction ∧
      core.spelledTwice.activity = .executed instruction ∧ core.step.1 = .ok cycles ∧
      AlikeWith (SameBut (core.registers.pc - 1)) core.step core.spelledTwice.step := by
  have alike := core.rewound_alike
  obtain ⟨byte, word⟩ := alike.operands rfl
  obtain ⟨-, instruction, spelled, -⟩ := Opcode.exists_describes core.spelledTwice defined
  have opened : core.spelledTwice.fetchByte =
      (core.opcode, core.spelledTwice.setPc (core.spelledTwice.registers.pc + 1)) := by
    rw [← opcode_spelledTwice]
    exact fetchByte_of_single rfl
  rw [← byte, ← word] at spelled
  obtain ⟨executes, ran⟩ := step_of_spelled core (core.modifyCpu State.rewound) alive running
    awake disabled rfl (fetchByte_of_repeated repeats) spelled
  rw [byte, word] at spelled
  obtain ⟨doubleExecutes, doubleRan⟩ := step_of_spelled core.spelledTwice core.spelledTwice
    alive running awake disabled rfl opened spelled
  have untouched := unread instruction executes
  rw [dataReads_eq, ← instruction.reads_pc] at untouched
  refine ⟨instruction, _, executes, doubleExecutes, congrArg Prod.fst ran, ?_⟩
  rw [ran, doubleRan]
  exact (alike.setPc _).finish untouched enable request

/-- What the latch of a repeated fetch means. In every run from power-on, or from where a boot
program hands over, and whatever the bus does, a step leaves the latch set exactly if it executes
a halt while interrupts are forbidden and one is pending. So the next step takes it back unless
it is such a halt too, and in between the processor does not wait and has not faulted. On plain
memory, the step that finds the latch set is the one from one address earlier on memory where
the byte at the program counter stands there as well, whatever instruction it spells, unless the
address before is read as data or for a pending interrupt. The same instruction is executed in
the same cycles, the processor is in the same state afterwards, and the memories are the same
but for that address. -/
theorem repeated_fetch_reads_byte_twice :
    (∀ (β : Type) [Bus β] (start cpu : State) (activities : List Activity),
      start = .powerOn ∨ start = .afterBoot → Run β start activities cpu →
        ∀ core : Core β, core.cpu = cpu →
          (core.step.2.cpu.repeatFetch = true ↔ core.HaltsInVain) ∧
            (∀ next : Core β, next.cpu = core.step.2.cpu → ¬ next.HaltsInVain →
              next.step.2.cpu.repeatFetch = false) ∧
            (cpu.repeatFetch = true →
              cpu.halted = false ∧ cpu.stopped = false ∧ cpu.fault = none)) ∧
      ∀ core : Core Flat, core.cpu.repeatFetch = true → core.cpu.enabled = false →
        core.cpu.halted = false → core.cpu.stopped = false → core.cpu.fault = none →
        core.opcode ∉ Opcode.undefined →
        core.registers.pc - 1 ≠ requestAddress → core.registers.pc - 1 ≠ enableAddress →
        (∀ instruction, core.activity = .executed instruction →
          core.registers.pc - 1 ∉ core.dataReads instruction) →
        let earlier : Core Flat :=
          { core with
            cpu :=
              { core.cpu with
                registers := { core.registers with pc := core.registers.pc - 1 }
                repeatFetch := false }
            bus := core.bus.poke (core.registers.pc - 1) core.opcode }
        ∃ instruction cycles,
          core.activity = .executed instruction ∧ earlier.activity = .executed instruction ∧
            core.step.1 = .ok cycles ∧ earlier.step.1 = .ok cycles ∧
            core.step.2.cpu = earlier.step.2.cpu ∧
            SameBut (core.registers.pc - 1) core.step.2.bus earlier.step.2.bus := by
  constructor
  · intro β bus start cpu activities initial run core here
    have fresh : start.Imminent := by
      rcases initial with rfl | rfl <;> exact nofun
    have imminent := imminent_run run fresh
    subst here
    refine ⟨repeatFetch_step_iff imminent, fun next continues waits => ?_, imminent⟩
    have later : next.cpu.Imminent := continues ▸ imminent_step imminent
    exact Bool.eq_false_iff.mpr (mt (repeatFetch_step_iff later).mp waits)
  · intro core repeats disabled awake running alive defined request enable unread earlier
    obtain ⟨instruction, cycles, executes, doubleExecutes, took, alike⟩ :=
      repeated_alike_spelledTwice repeats alive running awake disabled defined request enable
        unread
    exact ⟨instruction, cycles, executes, doubleExecutes, took, alike.value ▸ took,
      alike.core.cpu, alike.core.bus⟩

/-- Behind a halt that does not wait, while an interrupt is pending, the latch is set. On memory
that is full of calls, a call that it concerns is the one that a processor finds one address
earlier. -/
theorem repeated_fetch_of_call :
    let asking : Core Board := { cpu := .afterBoot, bus := Permission.haltingBoard }
    let halting := asking.step.2
    let core : Core Flat :=
      { cpu := { registers := { sp := 0xD000, pc := 0x0101 }, repeatFetch := true }
        bus := { cells := .replicate _ 0xCD } }
    let call : Instruction := .call .always 0xCDCD
    halting.HaltsInVain ∧ halting.step.2.cpu.repeatFetch = true ∧
      core.activity = .executed call ∧ 0x0100 ∉ core.dataReads call ∧
      core.spelledTwice.activity = .executed call ∧
      core.step.2.cpu = core.spelledTwice.step.2.cpu := by
  intro asking halting core call
  obtain ⟨latched, twice⟩ := repeated_fetch_reads_byte_twice
  have vain : halting.HaltsInVain := by
    refine ⟨?_, ?_, ?_⟩ <;> decide +kernel
  have run : Run Board .afterBoot [asking.activity] halting.cpu := .cons asking rfl (.nil _)
  have set : halting.step.2.cpu.repeatFetch = true :=
    (latched Board _ _ _ (.inr rfl) run halting rfl).1.mpr vain
  have cell (address : Word) : core.bus.peek address = 0xCD := by
    simp only [core, Flat.peek, Vector.getElem_replicate]
  have opcode : core.opcode = 0xCD := cell _
  let back := core.modifyCpu State.rewound
  have operands : back.operandByte = 0xCD ∧ back.operandWord = 0xCDCD := by
    have byte : back.operandByte = 0xCD := cell _
    have high : back.bus.peek (back.registers.pc + 2) = 0xCD := cell _
    refine ⟨byte, ?_⟩
    rw [operandWord, byte, high]
    rfl
  have spelled : (decode core.opcode).complete back.operandByte back.operandWord =
      some call := by
    rw [opcode, operands.1, operands.2]
    rfl
  have defined : core.opcode ∉ Opcode.undefined := by
    rw [opcode]
    decide
  have unread : 0x0100 ∉ core.dataReads call := by
    rw [dataReads_eq]
    exact List.not_mem_nil
  have calls : core.activity = .executed call :=
    (step_of_spelled core back rfl rfl rfl rfl rfl (fetchByte_of_repeated rfl) spelled).1
  have place : core.registers.pc - 1 = 0x0100 := by decide
  obtain ⟨instruction, cycles, executes, doubleExecutes, -, -, same, -⟩ :=
    twice core rfl rfl rfl rfl rfl defined (by decide) (by decide) (by
      intro instruction executes
      obtain rfl : call = instruction := Activity.executed.inj (calls.symm.trans executes)
      rw [place]
      exact unread)
  obtain rfl : call = instruction := Activity.executed.inj (calls.symm.trans executes)
  exact ⟨vain, set, calls, unread, doubleExecutes, same⟩

end Twice

end Core

end GameBoy.Cpu
