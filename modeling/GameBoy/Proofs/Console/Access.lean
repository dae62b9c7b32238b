import GameBoy.Proofs.Console.Run
import GameBoy.Proofs.Cpu.Permission

/-!
# Steps as accesses to the board

A step that dispatches an interrupt acknowledges it first. From there on the processor
changes the board by its accesses alone: the writes of the instruction or of the entry into
the handler, and then the time that the step takes. So what one access does to the board
decides what a step does.
-/

namespace GameBoy

open Cpu

namespace Board

/-- The board after an access. -/
def access (board : Board) : Access → Board
  | .write address value => (board.write address value).1
  | .elapse cycles => (board.elapse cycles).1

/-- The board after some accesses. -/
def accessAll (board : Board) (accesses : List Access) : Board := accesses.foldl access board

theorem accessAll_append (board : Board) (earlier later : List Access) :
    board.accessAll (earlier ++ later) = (board.accessAll earlier).accessAll later :=
  List.foldl_append

/-- What every access keeps holds after some accesses. -/
theorem accessAll_keeps (Holds : Board → Prop) {board : Board} {accesses : List Access}
    (keeps : ∀ access ∈ accesses, ∀ board, Holds board → Holds (board.access access))
    (holds : Holds board) : Holds (board.accessAll accesses) := by
  induction accesses generalizing board with
  | nil => exact holds
  | cons access accesses ih =>
      obtain ⟨here, rest⟩ := List.forall_mem_cons.mp keeps
      exact ih rest (here board holds)

/-- The board once the interrupt that a step dispatches has been acknowledged. -/
def acknowledged (board : Board) : Activity → Board
  | .dispatched interrupt =>
    { board with interrupts := board.interrupts.acknowledge interrupt }
  | _ => board

/-- Only a dispatch acknowledges. -/
theorem acknowledged_congr (board : Board) {first second : Activity}
    (same : ∀ interrupt, first = .dispatched interrupt ↔ second = .dispatched interrupt) :
    board.acknowledged first = board.acknowledged second := by
  cases first with
  | dispatched interrupt => rw [(same interrupt).mp rfl]
  | faulted | idle | executed =>
      cases second with
      | dispatched interrupt => exact nomatch (same interrupt).mpr rfl
      | faulted | idle | executed => rfl

end Board

namespace Cpu.Core

/-! ## Operations of the processor -/

/-- The accesses that were noted bring a board to where it is. -/
def Traced (start : Board) (core : Core (Recorded Board)) : Prop :=
  core.bus.bus = start.accessAll core.accesses

variable {start : Board} {core : Core (Recorded Board)}

theorem Traced.of_bus {next : Core (Recorded Board)} (traced : core.Traced start)
    (same : next.bus = core.bus) : next.Traced start := by
  rw [Traced, accesses, same]
  exact traced

theorem Traced.write (traced : core.Traced start) (address : Word) (value : Byte) :
    (core.write address value).Traced start := by
  rw [Traced, accesses_write, Board.accessAll_append, ← traced]
  rfl

theorem Traced.elapse (traced : core.Traced start) (cycles : Nat) :
    (core.elapse cycles).Traced start := by
  rw [Traced, accesses_elapse, Board.accessAll_append, ← traced]
  rfl

theorem Traced.push (traced : core.Traced start) (value : Word) :
    (core.push value).Traced start :=
  Traced.write (Traced.write traced _ value.high) _ value.low

theorem Traced.call (traced : core.Traced start) (target : Word) :
    (core.call target).Traced start :=
  (traced.push core.registers.pc).of_bus rfl

theorem Traced.writeOperand {middle : Core (Recorded Board)} (traced : core.Traced start)
    (same : middle.bus = core.bus) (operand : Operand) (value : Byte) :
    (middle.writeOperand operand value).Traced start := by
  have arrived := traced.of_bus same
  cases operand with
  | atHl => exact arrived.write _ value
  | b | c | d | e | h | l | a => exact arrived

variable (core)

theorem bus_modifyRegisters (change : Registers → Registers) :
    (core.modifyRegisters change).bus = core.bus := rfl

theorem bus_fetchByte : core.fetchByte.2.bus = core.bus := by
  simp only [fetchByte]
  split <;> rfl

theorem bus_fetchOperands (form : Form) : (core.fetchOperands form).2.bus = core.bus := by
  cases form with
  | inherent instruction | undefined => rfl
  | byte instruction => exact core.bus_fetchByte
  | word instruction => exact core.fetchByte.2.bus_fetchByte.trans core.bus_fetchByte

theorem bus_of_fetched {core opened fetched : Core (Recorded Board)} {opcode : Byte}
    {form : Form} {found : Option Instruction} (read : core.fetchByte = (opcode, opened))
    (operands : opened.fetchOperands form = (found, fetched)) : fetched.bus = core.bus := by
  have first := core.bus_fetchByte
  have second := opened.bus_fetchOperands form
  rw [read] at first
  rw [operands] at second
  exact second.trans first

theorem bus_readOperand (operand : Operand) : (core.readOperand operand).2.bus = core.bus := by
  cases operand <;> rfl

theorem bus_halt : core.halt.bus = core.bus := by
  simp only [halt]
  split
  · rfl
  · split <;> rfl

theorem bus_lookedAround : core.lookedAround.bus = core.bus := by
  unfold lookedAround
  split <;> rfl

theorem bus_awaitButton : core.awaitButton.bus = core.bus := by
  simp only [awaitButton]
  split <;> rfl

variable {core}

/-- No instruction acknowledges an interrupt: one case a constructor. -/
theorem Traced.execute (traced : core.Traced start) (instruction : Instruction) :
    (core.execute instruction).Traced start := by
  cases instruction with
  | stop => exact traced.write dividerAddress 0
  | halt => exact traced.of_bus core.bus_halt
  | load target source => exact traced.writeOperand (core.bus_readOperand source) target _
  | loadByte target value => exact traced.writeOperand rfl target value
  | increment target | decrement target | shift shift target =>
      simp only [Core.execute]
      apply traced.writeOperand
      rw [bus_modifyRegisters, bus_readOperand]
  | resetBit index target | setBit index target =>
      exact traced.writeOperand (core.bus_readOperand target) target _
  | accumulate operation source | testBit index source =>
      exact traced.of_bus (core.bus_readOperand source)
  | storeAt pointer => exact Traced.write traced _ _
  | storePage offset | storePageC | store address => exact traced.write _ _
  | storeSp address => exact (traced.write address _).write _ _
  | push pair => exact traced.push (core.registers.pair pair)
  | restart target => exact traced.call target
  | call condition target =>
      simp only [Core.execute]
      split
      · exact traced.call target
      · exact traced
  | jumpRelative condition displacement | jump condition target | ret condition =>
      simp only [Core.execute]
      split <;> exact traced
  | nop | disableInterrupts | enableInterrupts | loadWord target value
  | fetchAt pointer | fetchPage offset | fetchPageC | fetch address | loadSpHl
  | loadHlSp displacement | pop pair | accumulateByte operation value | incrementPair target
  | decrementPair target | addHl source | addSp displacement | shiftA shift | adjustDecimal
  | complement | setCarry | complementCarry | jumpHl | returnEnabling => exact traced

/-- The acknowledged interrupt is gone before the entry into its handler writes the stack. -/
theorem traced_dispatch (fresh : core.accesses = []) (interrupt : Interrupt) :
    (core.dispatch interrupt).Traced (core.bus.bus.acknowledged (.dispatched interrupt)) := by
  have confirmed : (core.acknowledge interrupt).Traced
      (core.bus.bus.acknowledged (.dispatched interrupt)) := by
    rw [Traced, accesses_acknowledge, fresh]
    rfl
  simp only [dispatch]
  generalize ready : ((core.modifyCpu State.disableInterrupts).acknowledge
    interrupt).modifyCpu (fun cpu => { cpu with repeatFetch := false }) = entering
  have still : entering.Traced (core.bus.bus.acknowledged (.dispatched interrupt)) :=
    confirmed.of_bus (by rw [← ready]; rfl)
  have entered :=
    still.push (if core.cpu.repeatFetch then core.registers.pc - 1 else core.registers.pc)
  exact entered.of_bus rfl

/-- A step acknowledges the interrupt that it dispatches, and then only accesses. -/
theorem traced_step (fresh : core.accesses = []) :
    core.step.2.Traced (core.bus.bus.acknowledged core.activity) := by
  have outcome := core.stepResult
  have untouched : core.Traced core.bus.bus := by
    rw [Traced, fresh]
    rfl
  generalize core.activity = activity at outcome ⊢
  generalize core.step = result at outcome ⊢
  cases outcome with
  | dead => exact untouched
  | stopped => exact untouched.of_bus core.bus_awaitButton
  | @dispatched _ _ interrupt =>
      have same := core.bus_lookedAround
      have entered := traced_dispatch ((congrArg Recorded.accesses same).trans fresh) interrupt
      rw [same] at entered
      exact entered.elapse dispatchCycles
  | halted =>
      have around := untouched.of_bus core.bus_lookedAround
      exact around.elapse idleCycles
  | undefined _ _ _ _ read unnamed =>
      exact untouched.of_bus ((bus_of_fetched read unnamed).trans core.bus_lookedAround)
  | @executed _ _ _ _ _ _ _ read instruction named =>
      have ready := untouched.of_bus ((bus_of_fetched read named).trans core.bus_lookedAround)
      have executed := ready.execute instruction
      exact Traced.elapse (executed.of_bus rfl) _

end Cpu.Core

/-! ## The time of a step -/

namespace Cpu

/-- Before the time that a step takes, there are only writes. -/
theorem Footprint.writes {accesses : List Access} {cycles : Nat}
    (footprint : Footprint (accesses ++ [.elapse cycles])) :
    4 ∣ cycles ∧ ∀ access ∈ accesses, ∃ address value, access = .write address value := by
  generalize whole : accesses ++ [Access.elapse cycles] = all at footprint
  cases footprint with
  | still => exact absurd whole (by simp)
  | quiet dividing =>
      have split : accesses ++ [.elapse cycles] = [] ++ [.elapse _] := whole
      obtain ⟨rfl, same⟩ := List.append_inj' split rfl
      cases same
      exact ⟨dividing, List.forall_mem_nil _⟩
  | storing stores dividing =>
      obtain ⟨rfl, same⟩ := List.append_inj' whole rfl
      cases same
      refine ⟨dividing, ?_⟩
      cases stores <;> simp
  | stopping =>
      have split : accesses ++ [.elapse cycles] = [.write dividerAddress 0] ++ [.elapse 4] := whole
      obtain ⟨rfl, same⟩ := List.append_inj' split rfl
      cases same
      simp

namespace Core

variable {β : Type} [Bus β] {core : Core (Recorded β)} {cycles : Nat}

theorem accesses_lookedAround (core : Core (Recorded β)) :
    core.lookedAround.accesses = core.accesses := by
  unfold lookedAround
  split <;> rfl

theorem accesses_of_fetched {opened fetched : Core (Recorded β)} {opcode : Byte}
    {form : Form} {found : Option Instruction}
    (read : core.lookedAround.fetchByte = (opcode, opened))
    (operands : opened.fetchOperands form = (found, fetched)) :
    fetched.accesses = core.accesses := by
  have first := core.lookedAround.accesses_fetchByte
  have second := opened.accesses_fetchOperands form
  rw [read] at first
  rw [operands] at second
  exact second.trans (first.trans core.accesses_lookedAround)

/-- A step of a stopped processor, or one that fails, changes nothing. -/
theorem accesses_step_of_still (fresh : core.accesses = [])
    (still : core.cpu.stopped = true ∨ ∀ cycles, core.step.1 ≠ .ok cycles) :
    core.step.2.accesses = [] := by
  have outcome := core.stepResult
  generalize core.activity = activity at outcome
  generalize core.step = result at outcome still ⊢
  cases outcome with
  | dead => exact fresh
  | stopped => exact core.accesses_awaitButton.trans fresh
  | undefined _ _ _ _ read unnamed => exact (accesses_of_fetched read unnamed).trans fresh
  | dispatched _ running | halted _ running | executed _ running =>
      rcases still with stopped | failed
      · exact nomatch running.symm.trans stopped
      · exact absurd rfl (failed _)

/-- A step that takes time ends with it, after the writes. -/
theorem leaves_step (ran : core.step.1 = .ok cycles) (running : core.cpu.stopped = false) :
    ∃ after, core.Leaves after cycles ∧
      core.step.2.accesses = (after.elapse cycles).accesses ∧ cycles ≤ 24 := by
  have outcome := core.stepResult
  generalize core.activity = activity at outcome
  generalize core.step = result at outcome ran ⊢
  cases outcome with
  | dead | undefined => exact nomatch ran
  | stopped _ stopped => exact nomatch running.symm.trans stopped
  | @dispatched _ _ interrupt =>
      cases ran
      exact ⟨_, leaves_dispatch core.accesses_lookedAround interrupt, rfl, by decide⟩
  | halted =>
      cases ran
      exact ⟨_, .of_quiet (by decide) core.accesses_lookedAround, rfl, by decide⟩
  | @executed _ _ _ _ _ _ fetched read instruction named =>
      cases ran
      have same := accesses_of_fetched read named
      obtain ⟨writes, wrote, footprint⟩ := fetched.leaves_execute instruction
      exact ⟨_, ⟨writes, wrote.trans (congrArg (· ++ writes) same), footprint⟩, rfl,
        instruction.cost_le _⟩

end Core

end Cpu

/-! ## Steps of a console -/

namespace Console

variable (console : Console)

/-- The processor of a console, on its board. -/
def core : Core Board := { cpu := console.cpu, bus := console.board }

/-- What the next step of a console does. -/
def activity : Activity := console.core.activity

theorem alike_recorded :
    Core.Alike (fun (noted : Recorded Board) board => noted.bus = board) console.recorded
      console.core :=
  ⟨rfl, rfl, rfl⟩

theorem activity_recorded_eq_dispatched_iff (interrupt : Interrupt) :
    console.recorded.activity = .dispatched interrupt ↔
      console.activity = .dispatched interrupt := by
  rw [activity, Permission.activity_eq_dispatched_iff, Permission.activity_eq_dispatched_iff]
  rfl

/-- What a step does to the board: the acknowledgement of a dispatched interrupt, and
then the accesses. -/
theorem board_step :
    console.step.console.board =
      (console.board.acknowledged console.activity).accessAll (console.moveAccesses .step) := by
  have fresh : console.recorded.accesses = [] := rfl
  have traced := Core.traced_step fresh
  rw [Core.Traced, console.bus_recorded_step,
    Board.acknowledged_congr _ console.activity_recorded_eq_dispatched_iff] at traced
  exact traced

theorem result_recorded_step : console.recorded.step.1 = console.step.result :=
  (Recorded.simulation.step_alike console.alike_recorded).value

variable {console}

theorem moveAccesses_of_stopped (stopped : console.cpu.stopped = true) :
    console.moveAccesses .step = [] :=
  Core.accesses_step_of_still rfl (.inl stopped)

theorem moveAccesses_of_fault {fault : Fault} (failed : console.step.result = .error fault) :
    console.moveAccesses .step = [] := by
  refine Core.accesses_step_of_still rfl (.inr fun cycles ran => ?_)
  rw [result_recorded_step, failed] at ran
  exact nomatch ran

/-- What a step that takes time does to the board. -/
theorem moveAccesses_of_ran {cycles : Nat} (ran : console.step.result = .ok cycles)
    (running : console.cpu.stopped = false) :
    (4 ∣ cycles ∧ cycles ≤ 24) ∧ ∃ writes,
      console.moveAccesses .step = writes ++ [.elapse cycles] ∧
        ∀ access ∈ writes, ∃ address value, access = .write address value := by
  rw [← result_recorded_step] at ran
  obtain ⟨after, ⟨writes, wrote, footprint⟩, same, short⟩ :=
    Core.leaves_step ran running
  obtain ⟨whole, only⟩ := footprint.writes
  refine ⟨⟨whole, short⟩, writes, ?_, only⟩
  rw [moveAccesses, same, Core.accesses_elapse, wrote]
  rfl

/-- The board behind the writes of a step, before its time passes. -/
def written (console : Console) (writes : List Access) : Board :=
  (console.board.acknowledged console.activity).accessAll writes

/-- A step that takes time makes its writes, and then its time passes. -/
theorem board_step_of_split {writes : List Access} {cycles : Nat}
    (split : console.moveAccesses .step = writes ++ [.elapse cycles]) :
    console.step.console.board = ((console.written writes).elapse cycles).1 := by
  rw [board_step, split, Board.accessAll_append]
  rfl

/-- A dispatch enters the handler with interrupts disabled. -/
theorem step_of_dispatched {source : Interrupt}
    (dispatched : console.activity = .dispatched source) :
    console.step.result = .ok 20 ∧
      console.step.console.cpu.registers.pc = 0x40 + 8 * UInt16.ofNat source.index ∧
        console.step.console.cpu.enabled = false := by
  have outcome := console.core.stepResult
  have same : console.step.result = console.core.step.1 ∧
      console.step.console.cpu = console.core.step.2.cpu := ⟨rfl, rfl⟩
  rw [same.1, same.2]
  rw [activity] at dispatched
  rw [dispatched] at outcome
  generalize console.core.step = result at outcome ⊢
  cases outcome with
  | dispatched => exact ⟨rfl, source.vector_eq, rfl⟩

/-- A step without accesses leaves the board as it is: the entry into a handler has some. -/
theorem board_step_of_still (still : console.moveAccesses .step = []) :
    console.step.console.board = console.board := by
  rw [board_step, still]
  cases active : console.activity with
  | faulted | idle | executed => rfl
  | dispatched interrupt =>
      obtain ⟨-, running, -⟩ := (Permission.activity_eq_dispatched_iff _ interrupt).mp active
      obtain ⟨ran, -⟩ := step_of_dispatched active
      obtain ⟨-, writes, split, -⟩ := moveAccesses_of_ran ran running
      rw [still] at split
      exact absurd split (by simp)

end Console

end GameBoy
