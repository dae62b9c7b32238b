import GameBoy.Proofs.Console.Completion
import GameBoy.Proofs.Console.Waiting

/-!
# Whole frames

A host asks for a frame, and the console is stepped until one is complete. The loop ends,
because every step costs time and the time is bounded, and what it returns is known: a frame
that its last step completed, or the one shown before. A dark screen completes none, and the
loop ends when the budget is spent. A screen that stays lit completes one within the time of
a frame and a step.
-/

namespace GameBoy

open Cpu

namespace Console

variable {console : Console}

/-! ## The loop -/

/-- The cycles that some steps report. -/
def spent (steps : List Console) : Nat := (steps.map cycles).sum

/-- The cycles after which no frame is awaited any longer. -/
def Exhausted (budget elapsed : Nat) (lcd : Lcd) : Prop :=
  budget ≤ elapsed ∧ lcd.enabled = false ∨ giveUp budget ≤ elapsed

/-- A frame under way, after some cycles: the consoles at which its steps begin, its result
and the console after it. There is a constructor for each way out of the loop, and one for
going on. -/
inductive Rendering (budget : Nat) :
    Console → Nat → List Console → Except Fault Unit → Console → Prop where
  | faulted {console : Console} {elapsed : Nat} {fault : Fault}
      (failed : console.step.result = .error fault) :
      Rendering budget console elapsed [console] (.error fault) console.step.console
  | complete {console : Console} {elapsed cycles : Nat} (ran : console.step.result = .ok cycles)
      (ready : console.step.console.board.lcd.frameReady = true) :
      Rendering budget console elapsed [console] (.ok ()) console.step.console.clearReady
  | exhausted {console : Console} {elapsed cycles : Nat} (ran : console.step.result = .ok cycles)
      (unready : console.step.console.board.lcd.frameReady = false)
      (used : Exhausted budget (elapsed + cycles) console.step.console.board.lcd) :
      Rendering budget console elapsed [console] (.ok ()) console.step.console
  | goesOn {console : Console} {elapsed cycles : Nat} (ran : console.step.result = .ok cycles)
      (unready : console.step.console.board.lcd.frameReady = false)
      (left : ¬ Exhausted budget (elapsed + cycles) console.step.console.board.lcd)
      {later : List Console} {result : Except Fault Unit} {final : Console}
      (rest : Rendering budget console.step.console (elapsed + cycles) later result final) :
      Rendering budget console elapsed (console :: later) result final

theorem sound_clearReady (sound : console.board.lcd.Sound) :
    console.clearReady.board.lcd.Sound :=
  sound.clearReady

theorem exists_rendering (budget : Nat) (console : Console) (elapsed : Nat)
    (events : Array Event) :
    ∃ steps, Rendering budget console elapsed steps
      (runFrame budget console elapsed events).result
      (runFrame budget console elapsed events).console := by
  fun_induction runFrame budget console elapsed events with
  | case1 console elapsed events outcome later fault failed =>
      exact ⟨[console], .faulted failed⟩
  | case2 console elapsed events outcome later cycles ran lcd ready =>
      exact ⟨[console], .complete ran ready⟩
  | case3 console elapsed events outcome later cycles ran now lcd unready used =>
      exact ⟨[console], .exhausted ran (Bool.eq_false_iff.mpr unready) used⟩
  | case4 console elapsed events outcome later cycles ran now lcd unready left ih =>
      obtain ⟨steps, rest⟩ := ih
      exact ⟨console :: steps, .goesOn ran (Bool.eq_false_iff.mpr unready) left rest⟩

/-- Asking for a frame is one such loop. -/
theorem exists_rendering_renderFrame (console : Console) :
    ∃ steps, Rendering console.budget console.clearReady 0 steps console.renderFrame.result
      console.renderFrame.console :=
  exists_rendering console.budget console.clearReady 0 #[]

namespace Rendering

variable {budget elapsed : Nat} {steps : List Console} {result : Except Fault Unit}
  {final : Console}

/-- There is only one way through the loop. -/
theorem unique (rendering : Rendering budget console elapsed steps result final)
    {others : List Console} {otherResult : Except Fault Unit} {otherFinal : Console}
    (other : Rendering budget console elapsed others otherResult otherFinal) :
    others = steps ∧ otherResult = result ∧ otherFinal = final := by
  induction rendering generalizing others otherResult otherFinal with
  | faulted failed =>
      cases other with
      | faulted again =>
          cases failed.symm.trans again
          exact ⟨rfl, rfl, rfl⟩
      | complete ran | exhausted ran | goesOn ran => exact nomatch failed.symm.trans ran
  | complete ran ready =>
      cases other with
      | faulted failed => exact nomatch ran.symm.trans failed
      | complete => exact ⟨rfl, rfl, rfl⟩
      | exhausted _ unready | goesOn _ unready => exact nomatch ready.symm.trans unready
  | exhausted ran unready used =>
      cases other with
      | faulted failed => exact nomatch ran.symm.trans failed
      | complete _ ready => exact nomatch ready.symm.trans unready
      | exhausted => exact ⟨rfl, rfl, rfl⟩
      | goesOn again _ left =>
          cases ran.symm.trans again
          exact absurd used left
  | goesOn ran unready left rest ih =>
      cases other with
      | faulted failed => exact nomatch ran.symm.trans failed
      | complete _ ready => exact nomatch ready.symm.trans unready
      | exhausted again _ used =>
          cases ran.symm.trans again
          exact absurd used left
      | goesOn again _ _ further =>
          cases ran.symm.trans again
          obtain ⟨rfl, rfl, rfl⟩ := ih further
          exact ⟨rfl, rfl, rfl⟩

/-- The loop ends soon enough: every step costs four cycles or more, and there is one more
step only while cycles are left. -/
theorem length_le (rendering : Rendering budget console elapsed steps result final) :
    steps.length ≤ max 1 ((giveUp budget - elapsed + 3) / 4) := by
  induction rendering with
  | faulted | complete | exhausted => exact Nat.le_max_left 1 _
  | goesOn ran unready left rest ih =>
      have costs := four_le_of_step ran
      obtain ⟨-, more⟩ := not_or.mp left
      rw [List.length_cons]
      omega

/-- What a frame returns: one that its last step completed, or the one shown before. -/
theorem frames (rendering : Rendering budget console elapsed steps result final)
    (sound : console.board.lcd.Sound) (fresh : console.board.lcd.frameReady = false)
    (done : result = .ok ()) :
    (∃ earlier last, steps = earlier ++ [last] ∧ (∀ step ∈ earlier, step.completed = []) ∧
        last.completed = [final.frame]) ∨
      (∀ step ∈ steps, step.completed = []) ∧ final.frame = console.frame := by
  induction rendering with
  | faulted => exact nomatch done
  | @complete console elapsed cycles ran ready =>
      left
      refine ⟨[], console, rfl, List.forall_mem_nil _, ?_⟩
      have outcome := frameResult sound
      generalize console.completed = frames at outcome ⊢
      cases outcome with
      | none same => exact nomatch (same.frameReady.trans fresh).symm.trans ready
      | one => rfl
  | @exhausted console elapsed cycles ran unready =>
      right
      have outcome := frameResult sound
      generalize shown : console.completed = frames at outcome
      cases outcome with
      | none same => exact ⟨List.forall_mem_singleton.mpr shown, same.shown⟩
      | one ready => exact nomatch unready.symm.trans ready
  | @goesOn console elapsed cycles ran unready _ later result final rest ih =>
      have outcome := frameResult sound
      generalize shown : console.completed = frames at outcome
      cases outcome with
      | one ready => exact nomatch unready.symm.trans ready
      | none same =>
          rcases ih (sound_step sound) unready done with
            ⟨earlier, last, split, silent, one⟩ | ⟨silent, kept⟩
          · left
            refine ⟨console :: earlier, last, congrArg _ split, ?_, one⟩
            exact List.forall_mem_cons.mpr ⟨shown, silent⟩
          · right
            exact ⟨List.forall_mem_cons.mpr ⟨shown, silent⟩, kept.trans same.shown⟩

theorem le_giveUp (counted : budget ≤ countLimit) : budget ≤ giveUp budget := by
  rw [giveUp]
  omega

theorem spent_singleton (console : Console) : spent [console] = console.cycles := by
  rw [spent, List.map_singleton, List.sum_singleton]

theorem spent_cons (console : Console) (later : List Console) :
    spent (console :: later) = console.cycles + spent later := by
  rw [spent, List.map_cons, List.sum_cons]
  rfl

/-- While the screen is dark no frame is completed. -/
theorem silent_of_dark (rendering : Rendering budget console elapsed steps result final)
    (sound : console.board.lcd.Sound)
    (dark : ∀ step ∈ steps, step.step.console.board.lcd.enabled = false) :
    ∀ step ∈ steps, step.completed = [] := by
  induction rendering with
  | faulted | complete | exhausted =>
      have off := dark _ List.mem_cons_self
      exact List.forall_mem_singleton.mpr (completed_of_dark sound off).1
  | goesOn ran unready left rest ih =>
      obtain ⟨off, darkLater⟩ := List.forall_mem_cons.mp dark
      have silent := (completed_of_dark sound off).1
      exact List.forall_mem_cons.mpr ⟨silent, ih (sound_step sound) darkLater⟩

/-- While the screen is dark the loop does not end before the budget is spent. -/
theorem le_spent_of_dark (rendering : Rendering budget console elapsed steps result final)
    (counted : budget ≤ countLimit) (sound : console.board.lcd.Sound)
    (fresh : console.board.lcd.frameReady = false)
    (dark : ∀ step ∈ steps, step.step.console.board.lcd.enabled = false)
    (run : ∀ step ∈ steps, ∃ cycles, step.step.result = .ok cycles) :
    budget ≤ elapsed + spent steps := by
  induction rendering with
  | faulted failed =>
      obtain ⟨cycles, ran⟩ := run _ List.mem_cons_self
      exact nomatch failed.symm.trans ran
  | complete ran ready =>
      have same := (completed_of_dark sound (dark _ List.mem_cons_self)).2
      exact nomatch (same.frameReady.trans fresh).symm.trans ready
  | exhausted ran unready used =>
      rw [spent_singleton, cycles_of_ran ran]
      rcases used with ⟨enough, -⟩ | given
      · exact enough
      · exact Nat.le_trans (le_giveUp counted) given
  | goesOn ran unready left rest ih =>
      obtain ⟨-, darkLater⟩ := List.forall_mem_cons.mp dark
      obtain ⟨-, runLater⟩ := List.forall_mem_cons.mp run
      rw [spent_cons, cycles_of_ran ran, ← Nat.add_assoc]
      exact ih (sound_step sound) unready darkLater runLater

/-- While the screen is dark the loop does not go on when the budget is spent. -/
theorem spent_lt_of_dark (rendering : Rendering budget console elapsed steps result final)
    (dark : ∀ step ∈ steps, step.step.console.board.lcd.enabled = false)
    {earlier later : List Console} (split : steps = earlier ++ later) (some : earlier ≠ [])
    (more : later ≠ []) : elapsed + spent earlier < budget := by
  induction rendering generalizing earlier with
  | faulted | complete | exhausted =>
      rcases List.singleton_eq_append_iff.mp split with ⟨none, -⟩ | ⟨-, none⟩
      · exact absurd none some
      · exact absurd none more
  | @goesOn console elapsed cycles ran unready left rest result final further ih =>
      obtain ⟨off, darkLater⟩ := List.forall_mem_cons.mp dark
      have here : elapsed + cycles < budget := by
        by_contra enough
        exact left (.inl ⟨Nat.le_of_not_lt enough, off⟩)
      cases earlier with
      | nil => exact absurd rfl some
      | cons first earlier =>
          cases split
          rw [spent_cons, cycles_of_ran ran, ← Nat.add_assoc]
          by_cases last : earlier = []
          · rw [last]
            exact here
          · exact ih darkLater rfl last

/-- A screen that stays on completes its frame before the loop gives up. -/
theorem completes_of_lit (rendering : Rendering budget console elapsed steps result final)
    (sound : console.board.lcd.Sound) (fresh : console.board.lcd.frameReady = false)
    {place : Nat} (here : console.board.lcd.At place) (aligned : 4 ∣ place)
    (room : Lcd.frameDots - place % Lcd.frameDots + elapsed ≤ giveUp budget)
    (run : ∀ step ∈ steps, ∃ cycles, step.step.result = .ok cycles)
    (running : ∀ step ∈ steps, step.cpu.stopped = false)
    (lit : ∀ step ∈ steps, step.KeepsLit) :
    spent steps ≤ Lcd.frameDots - place % Lcd.frameDots + 20 ∧
      ∃ earlier last, steps = earlier ++ [last] ∧ last.completed = [final.frame] := by
  have inside : place % Lcd.frameDots < Lcd.frameDots := Nat.mod_lt _ (by decide)
  have whole : 4 ∣ Lcd.frameDots := by decide
  induction rendering generalizing place with
  | faulted failed =>
      obtain ⟨cycles, ran⟩ := run _ List.mem_cons_self
      exact nomatch failed.symm.trans ran
  | @complete console elapsed cycles ran ready =>
      obtain ⟨middle, passes⟩ := exists_passes sound ran (running _ List.mem_cons_self)
      rcases passes.of_lit here (lit _ List.mem_cons_self) with
        ⟨-, same, -⟩ | ⟨late, one, -⟩
      · exact nomatch (same.frameReady.trans fresh).symm.trans ready
      · refine ⟨?_, [], console, rfl, one⟩
        -- The place is a whole number of machine cycles short of the end, so at least one.
        have residue : 4 ∣ place % Lcd.frameDots := (Nat.dvd_mod_iff whole).mpr aligned
        have short := passes.short
        rw [spent_singleton, cycles_of_ran ran]
        omega
  | exhausted ran unready used =>
      obtain ⟨middle, passes⟩ := exists_passes sound ran (running _ List.mem_cons_self)
      rcases passes.of_lit here (lit _ List.mem_cons_self) with
        ⟨early, -, arrived⟩ | ⟨-, -, ready⟩
      · rcases used with ⟨-, off⟩ | given
        · exact nomatch off.symm.trans arrived.running.enabled
        · omega
      · exact nomatch unready.symm.trans ready
  | @goesOn console elapsed cycles ran unready _ later result final rest ih =>
      obtain ⟨-, runLater⟩ := List.forall_mem_cons.mp run
      obtain ⟨running, runningLater⟩ := List.forall_mem_cons.mp running
      obtain ⟨keeps, litLater⟩ := List.forall_mem_cons.mp lit
      obtain ⟨middle, passes⟩ := exists_passes sound ran running
      rcases passes.of_lit here keeps with ⟨early, -, arrived⟩ | ⟨-, -, ready⟩
      · have moved : (place + cycles) % Lcd.frameDots = place % Lcd.frameDots + cycles := by
          rw [← Nat.mod_add_mod, Nat.mod_eq_of_lt early]
        obtain ⟨spends, earlier, last, split, one⟩ := ih (sound_step sound) unready arrived
          (Nat.dvd_add aligned passes.whole) (by omega) runLater runningLater litLater (by omega)
        refine ⟨?_, console :: earlier, last, congrArg _ split, one⟩
        rw [spent_cons, cycles_of_ran ran]
        omega
      · exact nomatch unready.symm.trans ready

end Rendering

/-! ## Consoles that wait -/

/-- A processor that waits writes nothing. -/
theorem Waiting.keepsLit (waiting : console.Waiting) : console.KeepsLit := by
  rw [KeepsLit, waiting.moveAccesses]
  exact List.forall_mem_singleton.mpr trivial

/-- While the processor waits, a dark screen stays dark. -/
theorem Waiting.dark_step (waiting : console.Waiting)
    (dark : console.board.lcd.enabled = false) :
    console.step.console.board.lcd.enabled = false := by
  rw [waiting.board_step, Board.lcd_elapse, Lcd.run_of_disabled dark]
  exact dark

theorem Waiting.dark_stepped (waiting : console.Waiting)
    (dark : console.board.lcd.enabled = false) (count : Nat) :
    (console.stepped count).board.lcd.enabled = false := by
  induction count generalizing console with
  | zero => exact dark
  | succ count ih => exact ih waiting.step (waiting.dark_step dark)

theorem sound_stepped (sound : console.board.lcd.Sound) (count : Nat) :
    (console.stepped count).board.lcd.Sound := by
  induction count generalizing console with
  | zero => exact sound
  | succ count ih => exact ih (sound_step sound)

section

variable {budget elapsed : Nat} {steps : List Console} {result : Except Fault Unit}
  {final : Console}

theorem Rendering.exists_stepped
    (rendering : Rendering budget console elapsed steps result final) :
    ∀ step ∈ steps, ∃ count, step = console.stepped count := by
  induction rendering with
  | faulted | complete | exhausted => exact List.forall_mem_singleton.mpr ⟨0, rfl⟩
  | goesOn ran unready left rest ih =>
      refine List.forall_mem_cons.mpr ⟨⟨0, rfl⟩, fun step member => ?_⟩
      obtain ⟨count, same⟩ := ih step member
      exact ⟨count + 1, same⟩

/-- If the processor waits at first, it waits in every step. -/
theorem Rendering.waiting
    (rendering : Rendering budget console elapsed steps result final)
    (waiting : console.Waiting) : ∀ step ∈ steps, step.Waiting := by
  intro step member
  obtain ⟨count, rfl⟩ := rendering.exists_stepped step member
  exact waiting.stepped count

/-- If the screen is dark too, it stays so. -/
theorem Rendering.dark_of_waiting
    (rendering : Rendering budget console elapsed steps result final)
    (waiting : console.Waiting) (dark : console.board.lcd.enabled = false) :
    ∀ step ∈ steps, step.step.console.board.lcd.enabled = false := by
  intro step member
  obtain ⟨count, rfl⟩ := rendering.exists_stepped step member
  exact (waiting.stepped count).dark_step (waiting.dark_stepped dark count)

end

/-! ## Consoles that occur -/

theorem four_dvd_dot_move (sound : console.board.lcd.Sound) (aligned : 4 ∣ console.board.lcd.dot)
    (move : Move) :
    (console.move move).board.lcd.Sound ∧ 4 ∣ (console.move move).board.lcd.dot := by
  cases move with
  | step =>
      rw [Console.move, board_step]
      apply Board.accessAll_keeps (fun board => board.lcd.Sound ∧ 4 ∣ board.lcd.dot)
      · intro access member board holds
        obtain ⟨sound, aligned⟩ := holds
        have whole := (console.footprint_moveAccesses .step).whole access member
        refine ⟨?_, Board.four_dvd_dot_access sound aligned whole⟩
        cases access with
        | write address value => exact Board.sound_write sound address value
        | elapse cycles => exact Board.sound_elapse sound cycles
      · rw [lcd_acknowledged]
        exact ⟨sound, aligned⟩
  | setButton | loadRam => exact ⟨sound, aligned⟩
  | noticeFrame => exact ⟨sound.clearReady, aligned⟩

/-- The dots of a line are in step with the machine cycles. -/
theorem four_dvd_dot_after (config : Config) (history : List Operation) :
    4 ∣ (after config history).board.lcd.dot := by
  apply And.right
  refine (switchedOn_after config history).keeps
    (fun console => console.board.lcd.Sound ∧ 4 ∣ console.board.lcd.dot) ?_ ?_
  · intro bootRom cartridge
    refine ⟨sound_powerOn config bootRom cartridge, ?_⟩
    simp only [powerOn]
    split <;> exact Nat.dvd_zero 4
  · intro console move holds
    exact four_dvd_dot_move holds.1 holds.2 move

/-- Asking for a frame always comes to an end, and returns the right one. For every console
that can occur and every budget: the loop makes no more steps than fit into twice the budget,
as far as cycles are counted. If no step fails, either the last one, and no other, completed
a frame and that one is returned, or none did and the frame is the one shown before. If the
screen is off after every step and none fails, no frame is completed and the loop ends with
the first step at which the budget is spent. If the screen is on, no write switches it off,
no step fails, the processor is not stopped, and twice the budget is worth a frame, one is
completed within the time of a frame and an interrupt's entry. -/
theorem renderFrame_bounded (config : Config) (history : List Operation) :
    let console := after config history
    let budget := config.frameBudget.toNat
    let outcome := console.renderFrame
    ∃ steps, Rendering budget console.clearReady 0 steps outcome.result outcome.console ∧
      steps.length ≤ max 1 ((min (2 * budget) (2 ^ 32 - 1) + 3) / 4) ∧
      (outcome.result = .ok () →
        (∃ earlier last, steps = earlier ++ [last] ∧ (∀ step ∈ earlier, step.completed = []) ∧
            last.completed = [outcome.console.frame]) ∨
          (∀ step ∈ steps, step.completed = []) ∧ outcome.console.frame = console.frame) ∧
      ((∀ step ∈ steps, step.step.console.board.lcd.enabled = false) →
        (∀ step ∈ steps, ∃ cycles, step.step.result = .ok cycles) →
        (∀ step ∈ steps, step.completed = []) ∧ budget ≤ spent steps ∧
          ∀ earlier later, steps = earlier ++ later → earlier ≠ [] → later ≠ [] →
            spent earlier < budget) ∧
      (console.board.lcd.enabled = true → 35112 ≤ budget →
        (∀ step ∈ steps, ∃ cycles, step.step.result = .ok cycles) →
        (∀ step ∈ steps, step.cpu.stopped = false) →
        (∀ step ∈ steps, step.KeepsLit) →
        spent steps ≤ 70224 + 20 ∧
          ∃ earlier last, steps = earlier ++ [last] ∧
            last.completed = [outcome.console.frame]) := by
  intro console budget outcome
  have configured : console.budget = budget :=
    congrArg (·.frameBudget.toNat) (switchedOn_after config history).config_eq
  have counted : budget ≤ countLimit := Nat.le_of_lt_succ config.frameBudget.toNat_lt
  have sound : console.clearReady.board.lcd.Sound := sound_clearReady (sound_after config history)
  obtain ⟨steps, rendering⟩ := console.exists_rendering_renderFrame
  rw [configured] at rendering
  refine ⟨steps, rendering, rendering.length_le, rendering.frames sound rfl, ?_, ?_⟩
  · intro dark run
    have spends := rendering.le_spent_of_dark counted sound rfl dark run
    rw [Nat.zero_add] at spends
    refine ⟨rendering.silent_of_dark sound dark, spends, fun earlier later split some more => ?_⟩
    have before := rendering.spent_lt_of_dark dark split some more
    rwa [Nat.zero_add] at before
  · intro on enough run running lit
    have here := (sound.running on).at
    have aligned : 4 ∣ console.clearReady.board.lcd.line * Lcd.lineEnd +
        console.clearReady.board.lcd.dot :=
      Nat.dvd_add (Nat.dvd_mul_left_of_dvd (by decide) _) (four_dvd_dot_after config history)
    have room : Lcd.frameDots ≤ giveUp budget := by
      simp only [giveUp, countLimit, Lcd.frameDots, Lcd.frameEnd, Lcd.lineEnd]
      omega
    obtain ⟨spends, completes⟩ := rendering.completes_of_lit sound rfl here aligned
      (Nat.le_trans (Nat.sub_le _ _) room) run running lit
    exact ⟨Nat.le_trans spends (Nat.add_le_add_right (Nat.sub_le _ _) 20), completes⟩

/-- A console whose processor waits before a screen that is on. -/
def watching : Console :=
  after { ramFill := .zeros } [.loadCartridge (Cartridge.shortestImage [(0x100, 0x76)]), .step]

/-- A console that switched the screen off and then waits. -/
def resting : Console :=
  after { ramFill := .zeros } (.loadCartridge (Cartridge.shortestImage [(0x100, 0x3E),
    (0x102, 0xE0), (0x103, 0x40), (0x104, 0x76)]) :: List.replicate 3 .step)

theorem waiting_watching : watching.clearReady.Waiting := by
  have fields : watching.clearReady.cpu.fault = none ∧ watching.clearReady.cpu.stopped = false ∧
      watching.clearReady.cpu.halted = true ∧ watching.clearReady.board.interrupts.enabled = 0 := by
    decide +kernel
  obtain ⟨alive, running, halted, masked⟩ := fields
  exact ⟨alive, running, halted, masked⟩

theorem waiting_resting : resting.clearReady.Waiting := by
  have fields : resting.clearReady.cpu.fault = none ∧ resting.clearReady.cpu.stopped = false ∧
      resting.clearReady.cpu.halted = true ∧ resting.clearReady.board.interrupts.enabled = 0 := by
    decide +kernel
  obtain ⟨alive, running, halted, masked⟩ := fields
  exact ⟨alive, running, halted, masked⟩

/-- While the processor waits, a screen that is on completes a frame in time, and one that is
off completes none before the budget is spent. -/
theorem renderFrame_of_waiting :
    (∃ steps, Rendering 70224 watching.clearReady 0 steps watching.renderFrame.result
        watching.renderFrame.console ∧
      watching.board.lcd.enabled = true ∧ (∀ step ∈ steps, step.KeepsLit) ∧
      spent steps ≤ 70224 + 20 ∧ ∃ earlier last, steps = earlier ++ [last] ∧
        last.completed = [watching.renderFrame.console.frame]) ∧
    ∃ steps, Rendering 70224 resting.clearReady 0 steps resting.renderFrame.result
        resting.renderFrame.console ∧
      (∀ step ∈ steps, step.step.console.board.lcd.enabled = false) ∧
      (∀ step ∈ steps, step.completed = []) ∧ 70224 ≤ spent steps := by
  constructor
  · obtain ⟨steps, rendering, -, -, -, completes⟩ := renderFrame_bounded { ramFill := .zeros }
      [.loadCartridge (Cartridge.shortestImage [(0x100, 0x76)]), .step]
    have waits := Rendering.waiting rendering waiting_watching
    refine ⟨steps, rendering, by decide +kernel, ?_, ?_⟩
    · exact fun step member => (waits step member).keepsLit
    apply completes (by decide +kernel) (by decide)
    · exact fun step member => ⟨4, (waits step member).result_step⟩
    · exact fun step member => (waits step member).running
    · exact fun step member => (waits step member).keepsLit
  · obtain ⟨steps, rendering, -, -, spends, -⟩ := renderFrame_bounded { ramFill := .zeros }
      (.loadCartridge (Cartridge.shortestImage [(0x100, 0x3E), (0x102, 0xE0), (0x103, 0x40),
        (0x104, 0x76)]) :: List.replicate 3 .step)
    have dark := Rendering.dark_of_waiting rendering waiting_resting (by decide +kernel)
    have waits := Rendering.waiting rendering waiting_resting
    obtain ⟨silent, enough, -⟩ :=
      spends dark fun step member => ⟨4, (waits step member).result_step⟩
    exact ⟨steps, rendering, dark, silent, enough⟩

/-! ## Where the conditions are needed -/

/-- A step that does not fail, of a processor that is not stopped, in which no instruction
switches the screen off and no frame is completed. -/
structure Undisturbed (console : Console) : Prop where
  ran : ∃ cycles, console.step.result = .ok cycles
  running : console.cpu.stopped = false
  spares : ∀ instruction, console.activity = .executed instruction → console.KeepsLit
  silent : console.completed = []

theorem Waiting.undisturbed (waiting : console.Waiting) (sound : console.board.lcd.Sound)
    (dark : console.board.lcd.enabled = false) : console.Undisturbed where
  ran := ⟨4, waiting.result_step⟩
  running := waiting.running
  spares _ _ := waiting.keepsLit
  silent := (completed_of_dark sound (waiting.dark_step dark)).1

/-- A console with the screen off that comes to an undefined opcode next. -/
def failing : Console :=
  after { ramFill := .zeros } [.loadCartridge (Cartridge.shortestImage [(0x100, 0x3E),
    (0x102, 0xE0), (0x103, 0x40), (0x104, 0xD3)]), .step, .step]

/-- A console that enters a handler next, with the stack above the control register of the
screen. The handler disables interrupts and waits. -/
def entering : Console :=
  after { ramFill := .zeros } (.loadCartridge (Cartridge.shortestImage [(0x40, 0xAF),
    (0x41, 0xE0), (0x42, 0xFF), (0x43, 0x76), (0x100, 0x31), (0x101, 0x41), (0x102, 0xFF),
    (0x103, 0x3E), (0x104, 0xFF), (0x105, 0xE0), (0x106, 0x47), (0x107, 0xE0), (0x108, 0xFF),
    (0x109, 0xFB)]) :: List.replicate 6 .step)

/-- After the entry, two instructions and the halt, nothing happens any more. -/
theorem undisturbed_entering (count : Nat) : (entering.clearReady.stepped count).Undisturbed := by
  have sound : entering.board.lcd.Sound := by
    rw [entering]
    exact sound_after _ _
  have entry : entering.clearReady.step.result = .ok 20 ∧ entering.clearReady.cpu.stopped = false ∧
      entering.clearReady.activity = .dispatched .vblank ∧
        entering.clearReady.completed.isEmpty = true := by
    decide +kernel
  have handler : ∀ count < 3, (entering.clearReady.stepped (count + 1)).cycles ≠ 0 ∧
      (entering.clearReady.stepped (count + 1)).cpu.stopped = false ∧
        (entering.clearReady.stepped (count + 1)).KeepsLit ∧
          (entering.clearReady.stepped (count + 1)).completed.isEmpty = true := by
    decide +kernel
  have waits : (entering.clearReady.stepped 4).cpu.fault = none ∧
      (entering.clearReady.stepped 4).cpu.stopped = false ∧
        (entering.clearReady.stepped 4).cpu.halted = true ∧
          (entering.clearReady.stepped 4).board.interrupts.enabled = 0 ∧
            (entering.clearReady.stepped 4).board.lcd.enabled = false := by
    decide +kernel
  rcases Nat.lt_or_ge count 4 with early | late
  · cases count with
    | zero =>
        obtain ⟨ran, running, dispatched, silent⟩ := entry
        refine ⟨⟨20, ran⟩, running, ?_, List.isEmpty_iff.mp silent⟩
        intro instruction executed
        exact nomatch dispatched.symm.trans executed
    | succ count =>
        obtain ⟨ran, running, lit, silent⟩ := handler count (Nat.lt_of_succ_lt_succ early)
        exact ⟨ran_of_cycles ran, running, fun _ _ => lit, List.isEmpty_iff.mp silent⟩
  · obtain ⟨further, rfl⟩ := Nat.exists_eq_add_of_le late
    obtain ⟨alive, running, halted, masked, dark⟩ := waits
    have waiting : (entering.clearReady.stepped 4).Waiting := ⟨alive, running, halted, masked⟩
    rw [stepped_add]
    apply Waiting.undisturbed
    · exact waiting.stepped further
    · exact sound_stepped (sound_stepped (sound_clearReady sound) 4) further
    · exact waiting.dark_stepped dark further

/-- A step that fails ends the loop before the budget is spent, though the screen is off after
every step. And the entry into a handler, which is no instruction, can switch the screen off
by what it pushes: then no frame is completed, though no instruction switches it off. -/
theorem renderFrame_of_exceptions :
    (failing.config.frameBudget = 70224 ∧ ∃ steps,
      Rendering 70224 failing.clearReady 0 steps failing.renderFrame.result
        failing.renderFrame.console ∧
      (∀ step ∈ steps, step.step.console.board.lcd.enabled = false) ∧
      ¬ 70224 ≤ spent steps) ∧
    (entering.config.frameBudget = 70224 ∧ ∃ steps,
      Rendering 70224 entering.clearReady 0 steps entering.renderFrame.result
        entering.renderFrame.console ∧
      entering.board.lcd.enabled = true ∧
      (∀ step ∈ steps, (∃ cycles, step.step.result = .ok cycles) ∧ step.cpu.stopped = false ∧
        ∀ instruction, step.activity = .executed instruction → step.KeepsLit) ∧
      ∀ step ∈ steps, step.completed = []) := by
  constructor
  · have fails : failing.config.frameBudget = 70224 ∧ failing.budget = 70224 ∧
        failing.clearReady.step.result = .error { opcode := 0xD3, address := 0x104 } ∧
          failing.clearReady.step.console.board.lcd.enabled = false := by
      decide +kernel
    obtain ⟨configured, budget, failed, dark⟩ := fails
    obtain ⟨steps, rendering⟩ := failing.exists_rendering_renderFrame
    rw [budget] at rendering
    obtain ⟨rfl, -, -⟩ := (Rendering.faulted failed).unique rendering
    refine ⟨configured, _, rendering, List.forall_mem_singleton.mpr dark, ?_⟩
    rw [Rendering.spent_singleton, cycles, failed]
    decide
  · have begins : entering.config.frameBudget = 70224 ∧ entering.budget = 70224 ∧
        entering.board.lcd.enabled = true := by
      decide +kernel
    obtain ⟨configured, budget, lit⟩ := begins
    obtain ⟨steps, rendering⟩ := entering.exists_rendering_renderFrame
    rw [budget] at rendering
    have undisturbed : ∀ step ∈ steps, step.Undisturbed := by
      intro step member
      obtain ⟨count, rfl⟩ := rendering.exists_stepped step member
      exact undisturbed_entering count
    refine ⟨configured, steps, rendering, lit, ?_, ?_⟩
    · intro step member
      have here := undisturbed step member
      exact ⟨here.ran, here.running, here.spares⟩
    · exact fun step member => (undisturbed step member).silent

end Console

end GameBoy
