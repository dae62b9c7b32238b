import GameBoy.Proofs.Console.Completion
import GameBoy.Proofs.Console.TimerInterrupts
import GameBoy.Proofs.Cpu.Faults

/-!
# Clocks in lockstep

A step writes first, and then the timer and a lit screen advance by the very cycles that it
reports. A stopped processor reports a machine cycle, but no clock advances, and none does when
a step fails. So the divider can be foretold: it shows the cycles that the steps have reported
since the run began, or since a write last cleared the counter behind it.
-/

namespace GameBoy

open Cpu

namespace Cpu

/-- The access writes the divider, and so clears the counter behind it. -/
def Access.writesDivider : Access → Bool
  | .write address _ => decide (address = dividerAddress)
  | .elapse _ => false

end Cpu

/-- A lit screen goes through the places of a frame one by one. -/
theorem Lcd.Running.place_run {lcd : Lcd} (running : lcd.Running) (dots : Nat) :
    (lcd.run dots).1.line * lineEnd + (lcd.run dots).1.dot =
      (lcd.line * lineEnd + lcd.dot + dots) % frameDots := by
  have arrived := running.at.run dots
  generalize lcd.line * lineEnd + lcd.dot + dots = place at arrived ⊢
  rw [arrived.line, arrived.dot]
  simp only [frameDots, frameEnd, lineEnd]
  omega

/-! ## Writes -/

theorem timerRegister?_eq_divider_iff (address : Word) :
    timerRegister? address = some .divider ↔ address = dividerAddress := by
  constructor
  · intro found
    apply UInt16.toNat_inj.mp
    unfold timerRegister? at found
    split at found
    next same => exact same
    all_goals exact nomatch found
  · rintro rfl
    rfl

namespace Board

variable {board : Board}

/-- Of all writes, only one of the divider reaches the counter. -/
theorem counter_write (board : Board) (address : Word) (value : Byte) :
    (board.write address value).1.timer.counter =
      if (Access.write address value).writesDivider then 0 else board.timer.counter := by
  rw [timer_write]
  simp only [Access.writesDivider, ← timerRegister?_eq_divider_iff]
  cases timerRegister? address with
  | none => rfl
  | some register =>
      cases register with
      | divider | control => exact Timer.counter_countEdge _ _
      | count =>
          have ungated : Timer.Register.count.gates = false := rfl
          exact (board.timer.unmoved_of_ungated value ungated).counter
      | modulo =>
          have ungated : Timer.Register.modulo.gates = false := rfl
          exact (board.timer.unmoved_of_ungated value ungated).counter

theorem counter_accessAll_of_writes {writes : List Access}
    (only : ∀ access ∈ writes, ∃ address value, access = .write address value) :
    (board.accessAll writes).timer.counter =
      if writes.any Access.writesDivider then 0 else board.timer.counter := by
  induction writes generalizing board with
  | nil => rfl
  | cons access writes ih =>
      obtain ⟨⟨address, value, rfl⟩, rest⟩ := List.forall_mem_cons.mp only
      refine (ih rest).trans ?_
      rw [access, counter_write, List.any_cons]
      cases Access.writesDivider _ <;> simp

theorem timer_acknowledged (board : Board) (activity : Activity) :
    (board.acknowledged activity).timer = board.timer := by
  cases activity <;> rfl

end Board

/-! ## Steps -/

namespace Console

variable {console : Console}

/-- A step that takes time makes its writes, and then the cycles pass that it reports. -/
theorem exists_writes {cycles : Nat} (ran : console.step.result = .ok cycles)
    (running : console.cpu.stopped = false) :
    ∃ writes, console.moveAccesses .step = writes ++ [.elapse cycles] ∧
      (∀ access ∈ writes, ∃ address value, access = .write address value) ∧
      console.step.console.board = ((console.written writes).elapse cycles).1 := by
  obtain ⟨-, writes, split, only⟩ := moveAccesses_of_ran ran running
  exact ⟨writes, split, only, board_step_of_split split⟩

theorem counter_written {writes : List Access}
    (only : ∀ access ∈ writes, ∃ address value, access = .write address value) :
    (console.written writes).timer.counter =
      if writes.any Access.writesDivider then 0 else console.board.timer.counter := by
  rw [written, Board.counter_accessAll_of_writes only, Board.timer_acknowledged]

theorem step_of_stopped (alive : console.cpu.fault = none) (stopped : console.cpu.stopped = true) :
    console.step.result = .ok 4 ∧ console.step.console.board = console.board := by
  have waits : console.core.step = (.ok 4, console.core.awaitButton) :=
    Core.step_of_stopped alive stopped
  exact ⟨congrArg Prod.fst waits, board_step_of_still (moveAccesses_of_stopped stopped)⟩

/-- The clock cycles of a move: those that a step reports, unless it begins stopped. -/
def clockCycles (console : Console) : Move → Nat
  | .step => if console.cpu.stopped then 0 else console.cycles
  | _ => 0

/-- The clock cycles of a run. -/
def clockTotal (console : Console) : List Move → Nat
  | [] => 0
  | move :: moves => console.clockCycles move + (console.move move).clockTotal moves

/-- A step of the run writes the divider, be it by its instruction, by stopping or by the entry
into a handler. -/
def WritesDivider (console : Console) (moves : List Move) : Prop :=
  ∃ accesses ∈ console.accesses moves, accesses.any Access.writesDivider = true

instance (console : Console) (moves : List Move) : Decidable (console.WritesDivider moves) :=
  inferInstanceAs
    (Decidable (∃ accesses ∈ console.accesses moves, accesses.any Access.writesDivider = true))

theorem not_writesDivider_cons (move : Move) (moves : List Move) :
    ¬ console.WritesDivider (move :: moves) ↔
      (console.moveAccesses move).any Access.writesDivider = false ∧
        ¬ (console.move move).WritesDivider moves := by
  simp only [WritesDivider, accesses, List.mem_cons, exists_eq_or_imp, not_or,
    Bool.not_eq_true]

/-- A step leaves the board alone and counts for nothing, or it takes time. -/
theorem still_or_ran (console : Console) :
    (console.moveAccesses .step = [] ∧ console.clockCycles .step = 0) ∨
      ∃ cycles, console.step.result = .ok cycles ∧ console.cpu.stopped = false ∧
        console.clockCycles .step = cycles := by
  cases stopped : console.cpu.stopped with
  | true =>
      left
      refine ⟨moveAccesses_of_stopped stopped, ?_⟩
      rw [clockCycles, if_pos stopped]
  | false =>
      have counts : console.clockCycles .step = console.cycles := if_neg (by simp [stopped])
      cases result : console.step.result with
      | error fault =>
          left
          refine ⟨moveAccesses_of_fault result, ?_⟩
          rw [counts, cycles, result]
      | ok cycles =>
          right
          exact ⟨cycles, rfl, rfl, counts.trans (cycles_of_ran result)⟩

/-- What a move does to the counter behind the divider. -/
theorem counter_move (console : Console) (move : Move) :
    (console.move move).board.timer.counter.toNat =
      ((if (console.moveAccesses move).any Access.writesDivider then 0
        else console.board.timer.counter.toNat) + console.clockCycles move) % 0x10000 := by
  have small := console.board.timer.counter.toNat_lt
  cases move with
  | setButton | loadRam | noticeFrame => exact (Nat.mod_eq_of_lt small).symm
  | step =>
      rcases console.still_or_ran with ⟨still, none⟩ | ⟨cycles, ran, running, counts⟩
      · rw [Console.move, board_step_of_still still, still, none]
        exact (Nat.mod_eq_of_lt small).symm
      · -- The writes come first, so a cleared counter still counts the step's own cycles.
        obtain ⟨writes, split, only, passed⟩ := exists_writes ran running
        have quiet : (console.moveAccesses .step).any Access.writesDivider =
            writes.any Access.writesDivider := by
          rw [split, List.any_append]
          exact Bool.or_false _
        rw [Console.move, passed, counts, quiet]
        refine ((console.written writes).timer.toNat_counter_run cycles).trans ?_
        rw [counter_written only]
        split <;> rfl

/-! ## Runs -/

variable {moves : List Move}

/-- While the divider is not written, the counter advances by the cycles of the run. -/
theorem counter_moveAll (kept : ¬ console.WritesDivider moves) :
    (console.moveAll moves).board.timer.counter.toNat =
      (console.board.timer.counter.toNat + console.clockTotal moves) % 0x10000 := by
  induction moves generalizing console with
  | nil => exact (Nat.mod_eq_of_lt console.board.timer.counter.toNat_lt).symm
  | cons move moves ih =>
      obtain ⟨first, rest⟩ := (not_writesDivider_cons move moves).mp kept
      rw [moveAll, ih rest, counter_move, first, Nat.mod_add_mod, Nat.add_assoc]
      rfl

/-- A run that writes the divider does so in a last step. -/
theorem exists_last_write (writes : console.WritesDivider moves) :
    ∃ earlier later, moves = earlier ++ .step :: later ∧
      (console.moveAll earlier).WritesDivider [.step] ∧
        ¬ (console.moveAll earlier).step.console.WritesDivider later := by
  induction moves generalizing console with
  | nil =>
      obtain ⟨accesses, member, -⟩ := writes
      exact absurd member List.not_mem_nil
  | cons move moves ih =>
      -- If the rest of the run writes the divider too, its last write is the last of all.
      by_cases again : (console.move move).WritesDivider moves
      · obtain ⟨earlier, later, rfl, last, rest⟩ := ih again
        exact ⟨move :: earlier, later, rfl, last, rest⟩
      · have first : (console.moveAccesses move).any Access.writesDivider = true := by
          by_contra kept
          have none := (not_writesDivider_cons move moves).mpr
            ⟨Bool.eq_false_iff.mpr kept, again⟩
          exact none writes
        cases move with
        | setButton | loadRam | noticeFrame => exact nomatch first
        | step => exact ⟨[], moves, rfl, ⟨_, List.mem_cons_self, first⟩, again⟩

/-- After a write of the divider the counter holds the cycles since, those of the step that
wrote it included. -/
theorem counter_moveAll_of_write (writes : console.WritesDivider [.step])
    (kept : ¬ console.step.console.WritesDivider moves) :
    (console.moveAll (.step :: moves)).board.timer.counter.toNat =
      console.clockTotal (.step :: moves) % 0x10000 := by
  have cleared : (console.moveAccesses .step).any Access.writesDivider = true := by
    obtain ⟨accesses, member, divider⟩ := writes
    cases List.mem_singleton.mp member
    exact divider
  have start := console.counter_move .step
  rw [if_pos cleared, Nat.zero_add] at start
  have rest : ((console.move .step).moveAll moves).board.timer.counter.toNat =
      ((console.move .step).board.timer.counter.toNat +
        (console.move .step).clockTotal moves) % 0x10000 := counter_moveAll kept
  rw [moveAll, rest, start, Nat.mod_add_mod]
  rfl

/-- The divider shows the upper byte of the counter. -/
theorem toNat_peek_divider (console : Console) :
    (console.peek 0xFF04).toNat = console.board.timer.counter.toNat / 256 := by
  have region : Memory.Region.ofAddress 0xFF04 = .device 4 :=
    Memory.Region.ofAddress_eq_device_iff.mpr rfl
  rw [peek, Board.read, region]
  exact console.board.timer.counter.toNat_high

/-! ## Consoles that stay on -/

theorem SwitchedOn.sound {config : Config} (on : SwitchedOn config console) :
    console.board.lcd.Sound := by
  refine on.keeps (·.board.lcd.Sound) (sound_powerOn config) fun before move sound => ?_
  cases move with
  | step => exact sound_step sound
  | setButton | loadRam => exact sound
  | noticeFrame => exact sound.clearReady

/-- A stopped processor has no fault. -/
theorem SwitchedOn.alive_of_stopped {config : Config} (on : SwitchedOn config console)
    (stopped : console.cpu.stopped = true) : console.cpu.fault = none := by
  refine on.keeps (fun console => console.cpu.stopped = true → console.cpu.fault = none)
    ?_ ?_ stopped
  · intro bootRom cartridge _
    simp only [powerOn]
    split <;> rfl
  · intro before move alive
    cases move with
    | step => exact before.core.alive_of_stopped_step alive
    | setButton | loadRam | noticeFrame => exact alive

/-- The clocks advance in lockstep with what the steps report, for every console that can
occur and every run of it. A step that succeeds and was not stopped makes its writes, and from
there the timer advances by the cycles that it reports, and so does the screen if it is lit. A
step that begins stopped reports four cycles and advances nothing, and neither does a step that
fails. Hence the divider shows the cycles of the run on top of the counter at its start; or, if
steps have written the divider, the cycles since the last of them began. -/
theorem clocks_in_lockstep (config : Config) (history : List Operation) (moves : List Move) :
    let start := after config history
    let here := start.moveAll moves
    let next := here.step.console
    let divider := (here.peek 0xFF04).toNat
    (∀ cycles, here.step.result = .ok cycles → here.cpu.stopped = false →
      ∃ writes, here.moveAccesses .step = writes ++ [.elapse cycles] ∧
        (∀ access ∈ writes, ∃ address value, access = .write address value) ∧
        let written := here.written writes
        next.board = (written.elapse cycles).1 ∧
          next.board.timer = (written.timer.run cycles).1 ∧
          next.board.timer.counter.toNat = (written.timer.counter.toNat + cycles) % 65536 ∧
          next.board.lcd = (written.lcd.run cycles).1 ∧
          (written.lcd.enabled = true →
            next.board.lcd.line * 456 + next.board.lcd.dot =
              (written.lcd.line * 456 + written.lcd.dot + cycles) % 70224) ∧
          (written.lcd.enabled = false → next.board.lcd = written.lcd)) ∧
      (here.cpu.stopped = true → here.step.result = .ok 4 ∧ next.board = here.board) ∧
      (∀ fault, here.step.result = .error fault → next.board = here.board) ∧
      (¬ start.WritesDivider moves →
        divider = (start.board.timer.counter.toNat + start.clockTotal moves) % 65536 / 256) ∧
      (start.WritesDivider moves →
        ∃ earlier later, moves = earlier ++ .step :: later ∧
          let last := start.moveAll earlier
          last.WritesDivider [.step] ∧ ¬ last.step.console.WritesDivider later ∧
            divider = last.clockTotal (.step :: later) % 65536 / 256) := by
  intro start here next divider
  have on : SwitchedOn config here := (switchedOn_after config history).moveAll moves
  refine ⟨?_, ?_, ?_, ?_, ?_⟩
  · intro cycles ran running
    obtain ⟨writes, split, only, passed⟩ := exists_writes ran running
    refine ⟨writes, split, only, passed, congrArg Board.timer passed, ?_,
      congrArg Board.lcd passed, ?_, ?_⟩
    · exact (congrArg (·.timer.counter.toNat) passed).trans
        ((here.written writes).timer.toNat_counter_run cycles)
    · intro lit
      have place := ((sound_written only on.sound).running lit).place_run cycles
      rw [passed]
      exact place
    · intro dark
      rw [passed]
      exact congrArg Prod.fst (Lcd.run_of_disabled dark cycles)
  · exact fun stopped => step_of_stopped (on.alive_of_stopped stopped) stopped
  · exact fun fault failed => board_step_of_still (moveAccesses_of_fault failed)
  · intro kept
    exact here.toNat_peek_divider.trans (congrArg (· / 256) (counter_moveAll kept))
  · intro writes
    obtain ⟨earlier, later, split, last, rest⟩ := exists_last_write writes
    refine ⟨earlier, later, split, last, rest, here.toNat_peek_divider.trans ?_⟩
    have counted := counter_moveAll_of_write last rest
    rw [← moveAll_append, ← split] at counted
    exact congrArg (· / 256) counted

/-- A program that does nothing, writes the divider, does nothing again and stops. -/
def clearing : List Operation :=
  [.loadCartridge (Cartridge.shortestImage [(0x101, 0xE0), (0x102, 0x04), (0x104, 0x10)])]

/-- Before that program writes the divider, the divider shows the time since power-on, and
after that the time since the write. Stopped, the processor goes on reporting cycles. -/
theorem clocks_in_lockstep_of_clearing :
    let start := after { ramFill := .zeros } clearing
    let early := start.moveAll [.step]
    let late := start.moveAll (List.replicate 3 .step)
    let stopped := start.moveAll (List.replicate 4 .step)
    ((¬ start.WritesDivider [.step] ∧ (early.peek 0xFF04).toNat = (0xABCC + 4) % 65536 / 256) ∧
      early.step.result = .ok 12 ∧ early.cpu.stopped = false ∧
      ∃ writes, early.moveAccesses .step = writes ++ [.elapse 12] ∧
        early.step.console.board.timer = ((early.written writes).timer.run 12).1) ∧
      (start.WritesDivider (List.replicate 3 .step) ∧
        ∃ earlier later, List.replicate 3 .step = earlier ++ .step :: later ∧
          let last := start.moveAll earlier
          last.WritesDivider [.step] ∧
            (late.peek 0xFF04).toNat = last.clockTotal (.step :: later) % 65536 / 256) ∧
      stopped.cpu.stopped = true ∧ stopped.step.result = .ok 4 ∧
        stopped.step.console.board = stopped.board := by
  refine ⟨⟨?_, ?_⟩, ?_, ?_⟩
  · obtain ⟨-, -, -, shows, -⟩ := clocks_in_lockstep { ramFill := .zeros } clearing [.step]
    have kept : ¬ (after { ramFill := .zeros } clearing).WritesDivider [.step] := by
      decide +kernel
    have counter : (after { ramFill := .zeros } clearing).board.timer.counter.toNat = 0xABCC := by
      decide +kernel
    have total : (after { ramFill := .zeros } clearing).clockTotal [.step] = 4 := by
      decide +kernel
    have shown := shows kept
    rw [counter, total] at shown
    exact ⟨kept, shown⟩
  · obtain ⟨advances, -⟩ := clocks_in_lockstep { ramFill := .zeros } clearing [.step]
    have ran : ((after { ramFill := .zeros } clearing).moveAll [.step]).step.result = .ok 12 := by
      decide +kernel
    have running :
        ((after { ramFill := .zeros } clearing).moveAll [.step]).cpu.stopped = false := by
      decide +kernel
    obtain ⟨writes, split, -, -, timer, -⟩ := advances 12 ran running
    exact ⟨ran, running, writes, split, timer⟩
  · obtain ⟨-, -, -, -, shows⟩ :=
      clocks_in_lockstep { ramFill := .zeros } clearing (List.replicate 3 .step)
    have writes :
        (after { ramFill := .zeros } clearing).WritesDivider (List.replicate 3 .step) := by
      decide +kernel
    obtain ⟨earlier, later, split, last, -, shown⟩ := shows writes
    exact ⟨writes, earlier, later, split, last, shown⟩
  · obtain ⟨-, still, -⟩ :=
      clocks_in_lockstep { ramFill := .zeros } clearing (List.replicate 4 .step)
    have waits : ((after { ramFill := .zeros } clearing).moveAll
        (List.replicate 4 .step)).cpu.stopped = true := by
      decide +kernel
    exact ⟨waits, still waits⟩

end Console

end GameBoy
