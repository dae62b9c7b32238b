import GameBoy.Proofs.Board.Interleaving
import GameBoy.Proofs.Console.Alignment
import GameBoy.Proofs.Console.InterruptRequests
import GameBoy.Proofs.Timer.Request

/-!
# Waking from a halt

A halted processor lets machine cycles pass until an interrupt is pending, and touches nothing
meanwhile. The first step that finds one pending ends the halt, whether interrupts are
permitted or not. A running timer requests its interrupt in due time and a lit screen comes to
its vertical blank once in a frame, so where one of them is enabled the halt is bounded.
-/

namespace GameBoy

open Cpu

/-! ## The end of a halt -/

namespace Cpu.Core

/-- Of all instructions only one halts, and not while a disabled interrupt is pending. -/
theorem halted_execute {β : Type} [Bus β] {core : Core β} (awake : core.cpu.halted = false)
    (disabled : core.cpu.enabled = false) (pending : core.pending.1.isSome = true)
    (instruction : Instruction) : (core.execute instruction).cpu.halted = false := by
  have same := congrArg State.halted (core.control_execute instruction)
  refine same.trans ?_
  cases instruction with
  | halt =>
      have refused : (core.cpu.enabled || core.pending.1.isNone) = false := by
        rw [disabled, Bool.false_or, Option.isNone_eq_false_iff]
        exact pending
      rw [controlAfter, if_neg (Bool.eq_false_iff.mp refused)]
      exact awake
  | enableInterrupts =>
      rw [controlAfter, State.requestInterrupts]
      split <;> exact awake
  | _ => exact awake

theorem halted_applyEnableDelay (state : State) :
    state.applyEnableDelay.halted = state.halted := by
  unfold State.applyEnableDelay
  split
  · rfl
  · split <;> rfl

theorem halted_dispatch {β : Type} [Bus β] (core : Core β) (interrupt : Interrupt)
    (cycles : Nat) : ((core.dispatch interrupt).elapse cycles).cpu.halted = core.cpu.halted := rfl

/-- A step that finds an interrupt pending leaves the processor awake, whatever it does. -/
theorem awake_of_pending {core : Core (Recorded Board)} (alive : core.cpu.fault = none)
    (running : core.cpu.stopped = false) (pending : core.pending.1.isSome = true) :
    core.step.2.cpu.halted = false := by
  have outcome := core.stepResult
  have roused : core.lookedAround.cpu.halted = false := by
    have around := congrArg State.halted core.control_lookedAround
    refine around.trans ?_
    rw [Option.isNone_eq_false_iff.mpr pending, Bool.and_false]
  generalize core.activity = activity at outcome
  generalize core.step = result at outcome ⊢
  cases outcome with
  | dead latched => exact nomatch alive.symm.trans latched
  | stopped _ stopped => exact nomatch running.symm.trans stopped
  | @dispatched _ _ interrupt =>
      exact (halted_dispatch core.lookedAround interrupt dispatchCycles).trans roused
  | halted _ _ _ asleep => exact nomatch roused.symm.trans asleep
  | undefined _ _ _ _ read unnamed =>
      have same := control_of_fetched read unnamed
      exact (congrArg State.halted same).trans roused
  | @executed _ _ unserved _ _ _ fetched read instruction named =>
      have same := control_of_fetched read named
      have disabled : core.cpu.enabled = false := by
        refine unserved.resolve_left fun none => ?_
        rw [none] at pending
        exact nomatch pending
      -- Fetching reads the bus and no more, so the same interrupt is still pending.
      have bus : fetched.bus = core.bus :=
        (bus_of_fetched read named).trans core.bus_lookedAround
      have still : fetched.pending.1.isSome = true := by
        have asked : (Bus.pending fetched.bus).1.isSome = true := bus ▸ pending
        exact asked
      refine (halted_applyEnableDelay _).trans (halted_execute ?_ ?_ still instruction)
      · exact (congrArg State.halted same).trans roused
      · have around := congrArg State.enabled core.control_lookedAround
        exact (congrArg State.enabled same).trans (around.trans disabled)

end Cpu.Core

/-! ## While nothing is pending -/

namespace Lcd

theorem memory_tick (lcd : Lcd) : lcd.tick.1.vram = lcd.vram ∧ lcd.tick.1.oam = lcd.oam := by
  simp only [tick, nextLine, nextBlankLine]
  repeat' split
  all_goals exact ⟨rfl, rfl⟩

/-- Dots leave the memories of the controller alone. -/
theorem memory_run (lcd : Lcd) (dots : Nat) :
    (lcd.run dots).1.vram = lcd.vram ∧ (lcd.run dots).1.oam = lcd.oam := by
  induction dots generalizing lcd with
  | zero => exact ⟨rfl, rfl⟩
  | succ dots ih =>
      obtain ⟨vram, oam⟩ := lcd.memory_tick
      obtain ⟨vramLater, oamLater⟩ := ih lcd.tick.1
      exact ⟨vramLater.trans vram, oamLater.trans oam⟩

end Lcd

namespace Board

/-- Two boards with the same contents of all memories, the cartridge with its circuit
included. -/
structure SameMemory (before after : Board) : Prop where
  workRam : after.workRam = before.workRam
  highRam : after.highRam = before.highRam
  vram : after.lcd.vram = before.lcd.vram
  oam : after.lcd.oam = before.lcd.oam
  cartridge : after.cartridge = before.cartridge

theorem sameMemory_elapse (board : Board) (cycles : Nat) :
    board.SameMemory (board.elapse cycles).1 := by
  obtain ⟨vram, oam⟩ := board.lcd.memory_run cycles
  exact ⟨rfl, rfl, vram, oam, rfl⟩

end Board

theorem InterruptController.isSome_pending {controller : InterruptController}
    {source : Interrupt} (enabled : controller.enabled.bit source.index = true)
    (requested : controller.requests source = true) : controller.pending.isSome = true := by
  have both : (controller.enabled &&& controller.requested).bit source.index = true := by
    simp only [Byte.bit, UInt8.toNat_and, Nat.testBit_and, Bool.and_eq_true]
    exact ⟨enabled, requested⟩
  have queued := Interrupt.mem_among.mpr both
  rw [pending, ← Interrupt.head?_among, Option.isSome_iff_ne_none, ne_eq,
    List.head?_eq_none_iff]
  exact List.ne_nil_of_mem queued

namespace Console

variable {console : Console}

/-- The processor is halted. -/
structure Halted (console : Console) : Prop where
  halted : console.cpu.halted = true
  alive : console.cpu.fault = none
  running : console.cpu.stopped = false

/-- The console after machine cycles in which its processor does nothing. -/
def idled (console : Console) (machineCycles : Nat) : Console :=
  { console with board := (console.board.elapse (4 * machineCycles)).1 }

theorem idled_succ (console : Console) (machineCycles : Nat) :
    (console.idled machineCycles).idled 1 = console.idled (machineCycles + 1) := by
  have split := console.board.fst_elapse_add (4 * machineCycles) 4
  exact congrArg (fun board => { console with board }) split.symm

theorem Halted.idled (halted : console.Halted) (machineCycles : Nat) :
    (console.idled machineCycles).Halted :=
  ⟨halted.halted, halted.alive, halted.running⟩

/-- While no interrupt is pending, a step lets a machine cycle pass. -/
theorem Halted.step (halted : console.Halted) (calm : (Bus.pending console.board).1 = none) :
    console.step.result = .ok 4 ∧ console.step.console = console.idled 1 := by
  have asked : console.core.pending = (none, console.core) := congrArg (·, console.core) calm
  have passed := (Core.step_of_waiting halted.alive halted.running halted.halted asked).2
  have cpu : console.step.console.cpu = console.cpu := congrArg (·.2.cpu) passed
  have board : console.step.console.board = (console.board.elapse 4).1 :=
    congrArg (·.2.bus) passed
  refine ⟨congrArg Prod.fst passed, ?_⟩
  rw [Console.idled, Nat.mul_one, ← board, ← cpu]
  rfl

/-- The first step that finds an interrupt pending ends the halt. -/
theorem Halted.awake (halted : console.Halted)
    (pending : (Bus.pending console.board).1.isSome = true) :
    console.step.console.cpu.halted = false := by
  have same := (Recorded.simulation.step_alike console.alike_recorded).core.cpu
  have roused : console.recorded.step.2.cpu.halted = false :=
    Core.awake_of_pending halted.alive halted.running pending
  exact (congrArg State.halted same).symm.trans roused

theorem Halted.stepped_eq (halted : console.Halted) {count : Nat}
    (calm : ∀ earlier < count, (Bus.pending (console.idled earlier).board).1 = none) :
    console.stepped count = console.idled count := by
  induction count with
  | zero => rfl
  | succ count ih =>
      have before := ih fun earlier early => calm earlier (Nat.lt_succ_of_lt early)
      have last := ((halted.idled count).step (calm count (Nat.lt_succ_self count))).2
      rw [stepped_add, before]
      exact last.trans (console.idled_succ count)

/-- A step among the first so many leaves the processor awake. Every step before it takes one
machine cycle, and leaves the processor and the contents of all memories as they were. -/
def WakesWithin (console : Console) (bound : Nat) : Prop :=
  ∃ idle < bound, (console.stepped (idle + 1)).cpu.halted = false ∧
    ∀ earlier < idle, (console.stepped earlier).step.result = .ok 4 ∧
      (console.stepped (earlier + 1)).cpu = console.cpu ∧
      console.board.SameMemory (console.stepped (earlier + 1)).board

/-- If an enabled interrupt is requested after some machine cycles, the next step wakes the
processor, unless one has done so before. -/
theorem Halted.wakesWithin (halted : console.Halted) (source : Interrupt)
    (enabled : console.board.interrupts.enabled.bit source.index = true) (machineCycles : Nat)
    (requested : (console.idled machineCycles).board.interrupts.requests source = true) :
    console.WakesWithin (machineCycles + 1) := by
  have pending :
      (Bus.pending (console.idled machineCycles).board).1.isSome = true := by
    apply InterruptController.isSome_pending _ requested
    rw [Console.idled, Board.enabled_elapse]
    exact enabled
  have some : ∃ idle, (Bus.pending (console.idled idle).board).1.isSome = true :=
    ⟨machineCycles, pending⟩
  -- The first moment at which anything is pending is the last of the halt.
  have calm : ∀ earlier < Nat.find some,
      (Bus.pending (console.idled earlier).board).1 = none := by
    intro earlier early
    exact Option.not_isSome_iff_eq_none.mp (Nat.find_min some early)
  have reached (count : Nat) (early : count ≤ Nat.find some) :
      console.stepped count = console.idled count :=
    halted.stepped_eq fun earlier before => calm earlier (Nat.lt_of_lt_of_le before early)
  refine ⟨Nat.find some, Nat.lt_succ_of_le (Nat.find_min' some pending), ?_, ?_⟩
  · rw [stepped_add, reached _ (Nat.le_refl _)]
    exact (halted.idled _).awake (Nat.find_spec some)
  · intro earlier early
    rw [reached earlier (Nat.le_of_lt early), reached (earlier + 1) early]
    refine ⟨((halted.idled earlier).step (calm earlier early)).1, rfl, ?_⟩
    exact console.board.sameMemory_elapse _

end Console

/-! ## Requests that come in time -/

/-- A lit screen begins its vertical blank once in a frame, wherever it is. -/
theorem Lcd.Running.exists_verticalBlank {lcd : Lcd} (running : lcd.Running) :
    ∃ earlier < frameDots, Signal.verticalBlank ∈ (lcd.run earlier).1.tick.2 := by
  generalize start : lcd.line * lineEnd + lcd.dot = place
  have here : lcd.At place := start ▸ running.at
  have left : ∃ earlier < frameDots, (place + earlier + 1) % frameDots = blankStart := by
    refine ⟨(frameDots + blankStart - 1 - place % frameDots) % frameDots,
      Nat.mod_lt _ (by decide), ?_⟩
    simp only [frameDots, blankStart, frameEnd, lineEnd, screenHeight]
    omega
  obtain ⟨earlier, early, due⟩ := left
  have arrived := here.run earlier
  have reports := arrived.running.filter_tick
  rw [if_pos (arrived.blank_iff.mp due)] at reports
  refine ⟨earlier, early, List.mem_of_mem_filter (p := (·.requests .vblank)) ?_⟩
  rw [reports]
  exact List.mem_singleton_self _

namespace Board

variable {board : Board}

theorem requests_timer_of_due (steady : board.timer.Steady)
    (running : board.timer.running = true) {cycles : Nat} (late : board.timer.due ≤ cycles) :
    (board.elapse cycles).1.interrupts.requests .timer = true := by
  have due := board.timer.due_pos
  have last : board.timer.due - 1 < board.timer.due := Nat.sub_lt due Nat.zero_lt_one
  have raised : (board.timer.run (board.timer.due - 1)).1.tick.2 = true :=
    (steady.raised_run_iff running last).mpr (Nat.succ_pred_eq_of_pos due)
  exact (requests_elapse cycles .timer).mpr
    (.inr (.cycle (Nat.lt_of_lt_of_le last late) raised))

theorem requests_vblank_of_frame (running : board.lcd.Running) {dots : Nat}
    (long : Lcd.frameDots ≤ dots) :
    (board.elapse dots).1.interrupts.requests .vblank = true := by
  obtain ⟨earlier, early, reported⟩ := running.exists_verticalBlank
  exact (requests_elapse dots .vblank).mpr
    (.inr (.dot (Nat.lt_of_lt_of_le early long) reported rfl))

end Board

namespace Console

variable {console : Console}

/-- A timer that is due wakes the processor. -/
theorem Halted.wakesWithin_of_due (halted : console.Halted)
    (steady : console.board.timer.Steady) (running : console.board.timer.running = true)
    (enabled : console.board.interrupts.enabled.bit 2 = true) {machineCycles : Nat}
    (late : console.board.timer.due ≤ 4 * machineCycles) :
    console.WakesWithin (machineCycles + 1) := by
  apply halted.wakesWithin .timer enabled machineCycles
  exact Board.requests_timer_of_due steady running late

/-- A screen that comes to its vertical blank wakes the processor. -/
theorem Halted.wakesWithin_of_frame (halted : console.Halted)
    (running : console.board.lcd.Running)
    (enabled : console.board.interrupts.enabled.bit 0 = true) {machineCycles : Nat}
    (long : Lcd.frameDots ≤ 4 * machineCycles) : console.WakesWithin (machineCycles + 1) := by
  apply halted.wakesWithin .vblank enabled machineCycles
  exact Board.requests_vblank_of_frame running long

/-- A halt is bounded where a clock ends it. For every console that can occur, with a halted
processor: if the timer runs and its interrupt is enabled, then within so many steps as the
timer needs to count through its whole register, to reload and to be noticed, a step leaves
the processor awake, whether interrupts are permitted or not; and so does a step within a frame
if the screen is on and vertical blank is enabled. Until then every step takes one machine
cycle and touches neither the processor nor any memory. -/
theorem halt_bounded (config : Config) (history : List Operation) :
    let console := after config history
    let board := console.board
    let enabled := board.interrupts.enabled
    let period :=
      match board.timer.control.toNat % 4 with
      | 1 => 16
      | 2 => 64
      | 3 => 256
      | _ => 1024
    console.cpu.halted = true → console.cpu.fault = none → console.cpu.stopped = false →
      (board.timer.control.bit 2 = true → enabled.bit 2 = true →
        console.WakesWithin (64 * period + 2)) ∧
      (board.lcd.control.bit 7 = true → enabled.bit 0 = true →
        console.WakesWithin (70224 / 4 + 1)) := by
  intro console board enabled period halted alive running
  have on : SwitchedOn config console := switchedOn_after config history
  have sound : board.lcd.Sound := sound_after config history
  have asleep : console.Halted := ⟨halted, alive, running⟩
  have told : board.timer.period = period := by
    have choices : board.timer.control.toNat % 4 = 0 ∨ board.timer.control.toNat % 4 = 1 ∨
        board.timer.control.toNat % 4 = 2 ∨ board.timer.control.toNat % 4 = 3 := by
      omega
    rcases choices with choice | choice | choice | choice <;>
      simp only [Timer.period, period, choice]
  constructor
  · intro counting wanted
    have steady : board.timer.Steady := on.settled.toSteady
    have soon : console.board.timer.due ≤ 256 * period + 4 := told ▸ steady.due_le
    exact asleep.wakesWithin_of_due steady counting wanted (by omega)
  · intro lit wanted
    exact asleep.wakesWithin_of_frame (sound.running lit) wanted (by decide)

/-- A program that forgets the requests, starts the timer, enables its interrupt and that of
the vertical blank, and halts. -/
def napping : List Operation :=
  .loadCartridge (Cartridge.shortestImage [(0x100, 0xAF), (0x101, 0xE0), (0x102, 0x0F),
    (0x103, 0x3E), (0x104, 0x05), (0x105, 0xE0), (0x106, 0x07), (0x107, 0xE0), (0x108, 0xFF),
    (0x109, 0x76)]) :: List.replicate 6 .step

/-- Halted by that program, with interrupts forbidden, the processor wakes within either
bound. -/
theorem halt_bounded_of_napping :
    let console := after { ramFill := .zeros } napping
    console.cpu.halted = true ∧ console.cpu.enabled = false ∧
      console.WakesWithin (64 * 16 + 2) ∧ console.WakesWithin (70224 / 4 + 1) := by
  have cpu : (after { ramFill := .zeros } napping).cpu.halted = true ∧
      (after { ramFill := .zeros } napping).cpu.fault = none ∧
      (after { ramFill := .zeros } napping).cpu.stopped = false ∧
      (after { ramFill := .zeros } napping).cpu.enabled = false := by
    decide +kernel
  have board : (after { ramFill := .zeros } napping).board.timer.control = 5 ∧
      (after { ramFill := .zeros } napping).board.interrupts.enabled = 5 ∧
      (after { ramFill := .zeros } napping).board.lcd.control = 0x91 := by
    decide +kernel
  obtain ⟨halted, alive, running, forbidden⟩ := cpu
  obtain ⟨counting, wanted, lit⟩ := board
  obtain ⟨timed, drawn⟩ := halt_bounded { ramFill := .zeros } napping halted alive running
  rw [counting, wanted] at timed
  rw [lit, wanted] at drawn
  exact ⟨halted, forbidden, timed rfl rfl, drawn rfl rfl⟩

end Console

end GameBoy
