import GameBoy.Board
import GameBoy.Proofs.Cpu.Activity

/-!
# When interrupts are permitted

Two bits are enough to say when interrupts are dispatched: whether they are permitted,
and whether they will be after one more instruction. The processor keeps three latches
for this purpose, of which one may be left over from an instruction that asked in vain
while interrupts became permitted anyway. On every bus, and through every run, the three
latches stay in step with the two bits.
-/

namespace GameBoy.Cpu

/-- Whether interrupts are permitted, and whether they will be after the next
instruction. -/
structure Permission where
  enabled : Bool := false
  delayed : Bool := false
  deriving DecidableEq, Repr

/-- What an activity makes of the permission. -/
def Permission.next (permission : Permission) : Activity → Permission
  | .faulted | .idle => permission
  | .dispatched _ | .executed .disableInterrupts => {}
  | .executed .returnEnabling => { enabled := true }
  | .executed .enableInterrupts =>
    if permission.enabled || permission.delayed then { enabled := true }
    else { delayed := true }
  | .executed _ => { enabled := permission.enabled || permission.delayed }

/-- The permission after some activities since power-on. -/
def Permission.after (activities : List Activity) : Permission :=
  activities.foldl Permission.next {}

/-- A run of a processor from one state to another, with its activities. Every step finds
the bus in any state whatever, so that nothing is supposed about it. -/
inductive Run (β : Type) [Bus β] : State → List Activity → State → Prop where
  | nil (cpu : State) : Run β cpu [] cpu
  | cons {start final : State} (core : Core β) (here : core.cpu = start)
      {activities : List Activity} (rest : Run β core.step.2.cpu activities final) :
      Run β start (core.activity :: activities) final

/-- The latches of a processor are in step with the permission. A request that is left over
while interrupts are permitted does not count. -/
structure Permission.Agrees (permission : Permission) (cpu : State) : Prop where
  enabled : cpu.enabled = permission.enabled
  armed : permission.enabled = false → cpu.enableArmed = permission.delayed
  unasked : permission.enabled = false → cpu.enableRequested = false
  settled : permission.enabled = true → permission.delayed = false

/-- The latches that decide when interrupts are dispatched. -/
def State.latches (state : State) : Bool × Bool × Bool :=
  (state.enabled, state.enableRequested, state.enableArmed)

namespace Permission

variable {permission : Permission} {cpu other : State}

/-! ## Single changes -/

theorem Agrees.of_latches (agrees : permission.Agrees cpu)
    (same : other.latches = cpu.latches) : permission.Agrees other := by
  obtain ⟨enabled, requested, armed⟩ : other.enabled = cpu.enabled ∧
      other.enableRequested = cpu.enableRequested ∧ other.enableArmed = cpu.enableArmed := by
    simpa [State.latches] using same
  exact ⟨enabled.trans agrees.enabled, fun off => armed.trans (agrees.armed off),
    fun off => requested.trans (agrees.unasked off), agrees.settled⟩

theorem Agrees.of_control (agrees : permission.Agrees cpu)
    (same : other.control = cpu.control) : permission.Agrees other := by
  have latches : other.control.latches = cpu.control.latches := congrArg State.latches same
  exact agrees.of_latches latches

theorem agrees_disableInterrupts (cpu : State) : Agrees {} cpu.disableInterrupts :=
  ⟨rfl, fun _ => rfl, fun _ => rfl, fun _ => rfl⟩

/-- While interrupts are permitted the other latches do not count. -/
theorem agrees_of_enabled (enabled : cpu.enabled = true) : Agrees { enabled := true } cpu where
  enabled := enabled
  armed off := nomatch off
  unasked off := nomatch off
  settled _ := rfl

/-- An end of an instruction forbids nothing. -/
theorem enabled_applyEnableDelay (enabled : cpu.enabled = true) :
    cpu.applyEnableDelay.enabled = true := by
  unfold State.applyEnableDelay
  split
  · rfl
  · split <;> exact enabled

/-- An instruction that ends lets a delayed permission come true. -/
theorem Agrees.applyEnableDelay (agrees : permission.Agrees cpu) :
    Agrees { enabled := permission.enabled || permission.delayed } cpu.applyEnableDelay := by
  cases on : permission.enabled with
  | true => exact agrees_of_enabled (enabled_applyEnableDelay (agrees.enabled.trans on))
  | false =>
      have unasked := agrees.unasked on
      have armed := agrees.armed on
      cases delayed : permission.delayed with
      | true =>
          have now : cpu.applyEnableDelay.enabled = true := by
            simp [State.applyEnableDelay, armed, delayed]
          exact agrees_of_enabled now
      | false =>
          have still : cpu.applyEnableDelay = cpu := by
            simp [State.applyEnableDelay, armed, delayed, unasked]
          rw [still]
          exact ⟨agrees.enabled.trans on, fun _ => armed.trans delayed, fun _ => unasked,
            fun _ => rfl⟩

/-- Asking for interrupts permits them one instruction later, unless an earlier request
does so now. -/
theorem Agrees.requestInterrupts (agrees : permission.Agrees cpu) :
    (permission.next (.executed .enableInterrupts)).Agrees
      cpu.requestInterrupts.applyEnableDelay := by
  cases on : permission.enabled with
  | true =>
      have enabled : cpu.enabled = true := agrees.enabled.trans on
      have granted : cpu.requestInterrupts = cpu := if_pos enabled
      rw [granted, next, if_pos (by simp [on])]
      exact agrees_of_enabled (enabled_applyEnableDelay enabled)
  | false =>
      have disabled : cpu.enabled = false := agrees.enabled.trans on
      have armed := agrees.armed on
      have asked : cpu.requestInterrupts = { cpu with enableRequested := true } :=
        if_neg (by simp [disabled])
      cases delayed : permission.delayed with
      | true =>
          have now : cpu.requestInterrupts.applyEnableDelay.enabled = true := by
            simp [State.applyEnableDelay, asked, armed, delayed]
          rw [next, if_pos (by simp [delayed])]
          exact agrees_of_enabled now
      | false =>
          have later : cpu.requestInterrupts.applyEnableDelay =
              { cpu with enableRequested := false, enableArmed := true } := by
            simp [State.applyEnableDelay, asked, armed, delayed]
          rw [next, if_neg (by simp [on, delayed]), later]
          exact ⟨disabled, fun _ => rfl, fun _ => rfl, fun on => nomatch on⟩

/-! ## Steps -/

variable {β : Type} [Bus β]

theorem latches_lookedAround (core : Core β) :
    core.lookedAround.cpu.latches = core.cpu.latches := by
  unfold Core.lookedAround
  split <;> rfl

theorem latches_awaitButton (core : Core β) :
    core.awaitButton.cpu.latches = core.cpu.latches := by
  unfold Core.awaitButton
  simp only
  split <;> rfl

theorem latches_dispatch (core : Core β) (interrupt : Interrupt) :
    (core.dispatch interrupt).cpu.latches = core.cpu.disableInterrupts.latches := rfl

/-- Three instructions touch the latches. -/
theorem latches_execute (core : Core β) {instruction : Instruction}
    (keeps : instruction ≠ .disableInterrupts) (silent : instruction ≠ .enableInterrupts)
    (stays : instruction ≠ .returnEnabling) :
    (core.execute instruction).cpu.latches = core.cpu.latches := by
  refine (congrArg State.latches (core.control_execute instruction)).trans ?_
  cases instruction with
  | disableInterrupts => exact absurd rfl keeps
  | enableInterrupts => exact absurd rfl silent
  | returnEnabling => exact absurd rfl stays
  | halt =>
      simp only [Core.controlAfter]
      split <;> rfl
  | _ => rfl

/-- The latches follow every instruction. -/
theorem Agrees.execute {core : Core β} (agrees : permission.Agrees core.cpu)
    (instruction : Instruction) :
    (permission.next (.executed instruction)).Agrees
      (core.execute instruction).cpu.applyEnableDelay := by
  cases instruction with
  | disableInterrupts => exact (agrees_disableInterrupts core.cpu).applyEnableDelay
  | enableInterrupts => exact agrees.requestInterrupts
  | returnEnabling => exact agrees_of_enabled (enabled_applyEnableDelay rfl)
  | _ =>
      refine (agrees.of_latches (latches_execute core ?_ ?_ ?_)).applyEnableDelay <;>
        exact Instruction.noConfusion

/-- The latches follow every step. -/
theorem Agrees.step {core : Core β} (agrees : permission.Agrees core.cpu) :
    (permission.next core.activity).Agrees core.step.2.cpu := by
  have outcome := core.stepResult
  have around := agrees.of_latches (latches_lookedAround core)
  generalize core.activity = activity at outcome ⊢
  generalize core.step = result at outcome ⊢
  cases outcome with
  | dead => exact agrees
  | stopped => exact agrees.of_latches (latches_awaitButton core)
  | dispatched => exact (agrees_disableInterrupts _).of_latches (latches_dispatch _ _)
  | halted => exact around
  | undefined _ _ _ _ read unnamed =>
      have ready := around.of_control (Core.control_of_fetched read unnamed)
      exact ready.of_latches rfl
  | executed _ _ _ _ read named =>
      have ready := around.of_control (Core.control_of_fetched read named)
      exact ready.execute _

/-- The latches follow every run. -/
theorem Agrees.run (agrees : permission.Agrees cpu) {activities : List Activity} {final : State}
    (run : Run β cpu activities final) :
    (activities.foldl Permission.next permission).Agrees final := by
  induction run generalizing permission with
  | nil => exact agrees
  | cons core here rest ih =>
      subst here
      exact ih agrees.step

/-! ## Dispatch -/

/-- An interrupt is dispatched exactly where one is pending and the processor is permitted
and able to serve it. -/
theorem activity_eq_dispatched_iff (core : Core β) (interrupt : Interrupt) :
    core.activity = .dispatched interrupt ↔
      core.cpu.fault = none ∧ core.cpu.stopped = false ∧ core.cpu.enabled = true ∧
        (Bus.pending core.bus).1 = some interrupt := by
  have outcome := core.stepResult
  generalize core.activity = activity at outcome ⊢
  generalize core.step = result at outcome
  cases outcome with
  | dead latched => simp [latched]
  | stopped _ stopped => simp [stopped]
  | dispatched alive running pending enabled =>
      have asked : (Bus.pending core.bus).1 = some _ := pending
      simp [alive, running, enabled, asked]
  | halted _ _ unserved | undefined _ _ unserved | executed _ _ unserved =>
      refine iff_of_false nofun ?_
      rintro ⟨-, -, enabled, pending⟩
      rcases unserved with none | disabled
      · exact nomatch none.symm.trans pending
      · exact nomatch disabled.symm.trans enabled

/-- While interrupts are forbidden, and nothing permits them, none is dispatched. -/
theorem Agrees.undispatched (agrees : Agrees {} cpu) {activities : List Activity}
    {final : State} (run : Run β cpu activities final)
    (forbidden : ∀ activity ∈ activities, activity ≠ .executed .enableInterrupts ∧
      activity ≠ .executed .returnEnabling) (interrupt : Interrupt) :
    .dispatched interrupt ∉ activities := by
  induction run with
  | nil => exact List.not_mem_nil
  | cons core here rest ih =>
      subst here
      obtain ⟨⟨silent, stays⟩, later⟩ := List.forall_mem_cons.mp forbidden
      have undispatched (other : Interrupt) : core.activity ≠ .dispatched other := by
        intro dispatched
        obtain ⟨-, -, enabled, -⟩ := (activity_eq_dispatched_iff core other).mp dispatched
        exact nomatch agrees.enabled.symm.trans enabled
      have still : Permission.next {} core.activity = {} := by
        generalize core.activity = activity at silent stays undispatched
        cases activity with
        | faulted | idle => rfl
        | dispatched other => exact absurd rfl (undispatched other)
        | executed instruction =>
            cases instruction with
            | enableInterrupts => exact absurd rfl silent
            | returnEnabling => exact absurd rfl stays
            | _ => rfl
      have following := agrees.step
      rw [still] at following
      exact List.not_mem_cons_of_ne_of_not_mem (undispatched interrupt).symm (ih following later)

/-- While interrupts are permitted and the processor only waits, it stays ready to serve
one. -/
theorem Agrees.ready (agrees : Agrees { enabled := true } cpu) (alive : cpu.fault = none)
    {activities : List Activity} {final : State} (run : Run β cpu activities final)
    (waiting : ∀ activity ∈ activities, activity = .idle) :
    final.enabled = true ∧ final.fault = none := by
  induction run with
  | nil => exact ⟨agrees.enabled, alive⟩
  | cons core here rest ih =>
      subst here
      obtain ⟨idle, later⟩ := List.forall_mem_cons.mp waiting
      have following := agrees.step
      rw [idle] at following
      exact ih following (core.fault_step (by simp [idle])) later

/-- A request leaves the processor neither halted nor stopped. -/
theorem active_of_request {core : Core β}
    (requested : core.activity = .executed .enableInterrupts) :
    core.step.2.cpu.halted = false ∧ core.step.2.cpu.stopped = false := by
  have outcome := core.stepResult
  have around := congrArg State.stopped core.control_lookedAround
  rw [requested] at outcome
  generalize core.step = result at outcome ⊢
  cases outcome with
  | @executed _ running _ awake _ _ fetched read instruction named =>
      have same := Core.control_of_fetched read named
      have halted := congrArg State.halted same
      have stopped := congrArg State.stopped same
      have kept (cpu : State) : cpu.requestInterrupts.applyEnableDelay.halted = cpu.halted ∧
          cpu.requestInterrupts.applyEnableDelay.stopped = cpu.stopped := by
        unfold State.applyEnableDelay State.requestInterrupts
        repeat' split
        all_goals exact ⟨rfl, rfl⟩
      obtain ⟨stillAwake, stillRunning⟩ := kept fetched.cpu
      exact ⟨stillAwake.trans (halted.trans awake),
        stillRunning.trans (stopped.trans (around.trans running))⟩

/-- An active processor that may not serve interrupts runs an instruction or faults. -/
theorem activity_of_active {core : Core β} (disabled : core.cpu.enabled = false)
    (awake : core.cpu.halted = false) (running : core.cpu.stopped = false) :
    core.activity = .faulted ∨ ∃ instruction, core.activity = .executed instruction := by
  have outcome := core.stepResult
  have around := congrArg State.halted core.control_lookedAround
  generalize core.activity = activity at outcome ⊢
  generalize core.step = result at outcome
  cases outcome with
  | dead | undefined => exact .inl rfl
  | stopped _ stopped => exact nomatch running.symm.trans stopped
  | dispatched _ _ _ enabled => exact nomatch disabled.symm.trans enabled
  | halted _ _ _ halted =>
      have waiting := around.symm.trans halted
      simp [awake] at waiting
  | executed => exact .inr ⟨_, rfl⟩

/-- A delayed permission comes true with every instruction but one. -/
theorem next_delayed {instruction : Instruction} (permits : instruction ≠ .disableInterrupts) :
    Permission.next { delayed := true } (.executed instruction) = { enabled := true } := by
  cases instruction with
  | disableInterrupts => exact absurd rfl permits
  | _ => rfl

/-- When interrupts are dispatched. In every run from power-on, or from where a boot program
hands over, and whatever the bus does, the latch that permits interrupts is the bit of the
reference automaton after every step. Every step has the outcome of its activity, and it
dispatches an interrupt exactly if the processor is neither stopped nor at fault, the
automaton permits it and the bus reports that interrupt. So an instruction that asks for
interrupts, while they are forbidden and no earlier request is under way, lets exactly one
more instruction pass: the step behind it runs an instruction, and after that one any
interrupt that is pending is dispatched as soon as the processor is not stopped, or none at
all if the instruction forbids interrupts again. -/
theorem enabled_of_run {start cpu : State} (initial : start = .powerOn ∨ start = .afterBoot)
    {activities : List Activity} (run : Run β start activities cpu) :
    let permission := after activities
    cpu.enabled = permission.enabled ∧
    (∀ core : Core β, core.cpu = cpu →
      core.StepResult core.activity core.step ∧ ∀ interrupt,
        core.activity = .dispatched interrupt ↔
          cpu.fault = none ∧ cpu.stopped = false ∧ permission.enabled = true ∧
            (Bus.pending core.bus).1 = some interrupt) ∧
    ∀ core : Core β, core.cpu = cpu → permission = {} →
      core.activity = .executed .enableInterrupts → ∀ first later final,
        Run β core.step.2.cpu (first :: later) final →
          (first = .faulted ∨ ∃ instruction, first = .executed instruction) ∧
          (first = .executed .disableInterrupts →
            (∀ activity ∈ later, activity ≠ .executed .enableInterrupts ∧
              activity ≠ .executed .returnEnabling) →
            ∀ interrupt, .dispatched interrupt ∉ later) ∧
          (first ≠ .faulted → first ≠ .executed .disableInterrupts →
            (∀ activity ∈ later, activity = .idle) → final.stopped = false →
            ∀ core : Core β, core.cpu = final → ∀ interrupt,
              (Bus.pending core.bus).1 = some interrupt →
                core.activity = .dispatched interrupt) := by
  have fresh : Agrees {} start := by
    rcases initial with rfl | rfl <;> exact ⟨rfl, fun _ => rfl, fun _ => rfl, fun _ => rfl⟩
  intro permission
  have agrees : permission.Agrees cpu := fresh.run run
  refine ⟨agrees.enabled, ?_, ?_⟩
  · intro core here
    refine ⟨core.stepResult, fun interrupt => ?_⟩
    rw [activity_eq_dispatched_iff, here, agrees.enabled]
  · intro core here forbidden requested first later final continued
    subst here
    rw [forbidden] at agrees
    have delayed : Agrees { delayed := true } core.step.2.cpu := by
      have following := agrees.step
      rwa [requested] at following
    obtain ⟨awake, running⟩ := active_of_request requested
    cases continued with
    | cons second continues rest =>
        have arrived : Agrees { delayed := true } second.cpu := continues ▸ delayed
        have active := activity_of_active arrived.enabled (continues ▸ awake)
          (continues ▸ running)
        have following := arrived.step
        refine ⟨active, fun denied undone => ?_, fun sane permits waiting ready => ?_⟩
        · rw [denied] at following
          exact following.undispatched rest undone
        · obtain ⟨instruction, executed⟩ := active.resolve_left sane
          have alive := second.fault_step sane
          rw [executed] at following permits
          rw [next_delayed fun same => permits (congrArg _ same)] at following
          obtain ⟨enabled, unfaulted⟩ := following.ready alive rest waiting
          intro core here interrupt pending
          exact (activity_eq_dispatched_iff core interrupt).mpr
            ⟨here ▸ unfaulted, here ▸ ready, here ▸ enabled, pending⟩

/-- A board whose program asks for interrupts and halts, while one is pending. -/
def haltingBoard : Board where
  cartridge := some (.ofImage
    (((Array.replicate 0x150 0).setIfInBounds 0x100 0xFB).setIfInBounds 0x101 0x76)
    (by decide +kernel))
  interrupts := { enabled := 0x01, requested := 0x01 }

/-- The interrupt is dispatched right behind the halt, not before it. -/
theorem dispatched_behind_halt :
    let asking : Core Board := { cpu := .afterBoot, bus := haltingBoard }
    let halting := asking.step.2
    asking.activity = .executed .enableInterrupts ∧ halting.activity = .executed .halt ∧
      halting.step.2.activity = .dispatched .vblank := by
  intro asking halting
  have asks : asking.activity = .executed .enableInterrupts := by decide +kernel
  have halts : halting.activity = .executed .halt := by decide +kernel
  obtain ⟨-, -, after_request⟩ := enabled_of_run (.inr rfl) (.nil (β := Board) .afterBoot)
  obtain ⟨-, -, ready⟩ := after_request asking rfl rfl asks halting.activity [] _
    (.cons halting rfl (.nil halting.step.2.cpu))
  refine ⟨asks, halts, ready (by rw [halts]; decide) (by rw [halts]; decide) nofun ?_
    halting.step.2 rfl .vblank ?_⟩
  · decide +kernel
  · decide +kernel

end Permission

end GameBoy.Cpu
