import GameBoy.Memory.Flat
import GameBoy.Proofs.Cpu.Faults
import GameBoy.Proofs.Cpu.Permission
import GameBoy.Proofs.Cpu.Priority

/-!
# Draining the pending interrupts

On plain memory with handlers that return at once, the interrupts that are pending are
served one after the other, and the program notices nothing of it. Serving one takes two
steps: the entry pushes the address to return to and clears the request, and the handler's
only instruction pops that address and permits interrupts again. The next source is then
served before the program goes on, so the queue of sources shortens by one in each round.
-/

namespace GameBoy.Cpu

open AddressSpace Memory

/-- The address that the entry of a handler leaves on the stack. -/
def State.returnAddress (state : State) : Word :=
  if state.repeatFetch then state.registers.pc - 1 else state.registers.pc

/-- The state behind a handler that has returned: at the address that was on the stack, with
interrupts permitted, awake, and without a request that is still under way. -/
def State.returned (state : State) : State :=
  { state with
    registers := { state.registers with pc := state.returnAddress }
    enabled := true
    halted := false
    repeatFetch := false
    enableRequested := false
    enableArmed := false }

@[simp] theorem State.returnAddress_returned (state : State) :
    state.returned.returnAddress = state.returnAddress := rfl

@[simp] theorem State.returned_returned (state : State) :
    state.returned.returned = state.returned := rfl

/-- What a step does, its result, and where the program goes on. -/
structure Stepped where
  activity : Activity
  result : Except Fault Nat
  next : Word

namespace Core

section Trace

variable {β : Type} [Bus β]

/-- The core after some steps. -/
def stepped (core : Core β) : Nat → Core β
  | 0 => core
  | steps + 1 => core.step.2.stepped steps

/-- What some steps do. -/
def trace (core : Core β) : Nat → List Stepped
  | 0 => []
  | steps + 1 =>
    { activity := core.activity, result := core.step.1, next := core.step.2.registers.pc } ::
      core.step.2.trace steps

theorem stepped_add (core : Core β) (first second : Nat) :
    core.stepped (first + second) = (core.stepped first).stepped second := by
  induction first generalizing core with
  | zero => rw [Nat.zero_add, stepped]
  | succ first ih => rw [Nat.add_right_comm, stepped, ih, stepped]

theorem trace_add (core : Core β) (first second : Nat) :
    core.trace (first + second) = core.trace first ++ (core.stepped first).trace second := by
  induction first generalizing core with
  | zero => rw [Nat.zero_add, trace, List.nil_append, stepped]
  | succ first ih => rw [Nat.add_right_comm, trace, ih, trace, stepped, List.cons_append]

end Trace

variable {core : Core Flat}

/-! ## One source -/

/-- The sources that are requested and enabled, in the order in which they are served. -/
def queue (core : Core Flat) : List Interrupt :=
  Interrupt.among (core.bus.peek enableAddress &&& core.bus.peek requestAddress)

theorem pending_eq (core : Core Flat) : core.pending.1 = core.queue.head? :=
  (Interrupt.head?_among _).symm

/-- An address that belongs neither to the registers of the interrupts nor to a handler. -/
structure Unclaimed (address : Word) : Prop where
  request : address ≠ requestAddress
  enable : address ≠ enableAddress
  vector : ∀ source : Interrupt, address ≠ source.vector

/-- Interrupts are permitted, every handler consists of the instruction that returns, and the
two bytes below the stack are unclaimed. -/
structure Returning (core : Core Flat) : Prop where
  enabled : core.cpu.enabled = true
  running : core.cpu.stopped = false
  alive : core.cpu.fault = none
  handlers : ∀ source : Interrupt, core.bus.peek source.vector = 0xD9
  high : Unclaimed (core.registers.sp - 1)
  low : Unclaimed (core.registers.sp - 2)

/-- Plain memory behind the entry of a handler: the request is cleared and the address to
return to is below the stack. -/
def entered (memory : Flat) (source : Interrupt) (sp address : Word) : Flat :=
  ((memory.write requestAddress (memory.peek requestAddress &&& ~~~source.mask)).write (sp - 1)
    address.high).write (sp - 2) address.low

theorem bus_dispatch (core : Core Flat) (source : Interrupt) :
    (core.lookedAround.dispatch source).bus =
      entered core.bus source core.registers.sp core.cpu.returnAddress := by
  have below : core.registers.sp - 1 - 1 = core.registers.sp - 2 := by grind
  rw [lookedAround_eq, entered, ← below]
  rfl

theorem cpu_dispatch (core : Core Flat) (source : Interrupt) :
    (core.lookedAround.dispatch source).cpu =
      { core.cpu with
        registers :=
          { core.registers with sp := core.registers.sp - 2, pc := source.vector }
        enabled := false
        halted := core.cpu.halted && core.pending.1.isNone
        repeatFetch := false
        enableRequested := false
        enableArmed := false } := by
  have below : core.registers.sp - 1 - 1 = core.registers.sp - 2 := by grind
  rw [lookedAround_eq, ← below]
  rfl

/-- The instruction that returns, run while interrupts are forbidden and nothing is under
way. -/
theorem step_of_return (registers : Registers) (memory : Flat) (journal : Array Event)
    (found : memory.peek registers.pc = 0xD9) :
    activity { cpu := { registers }, bus := memory, journal } = .executed .returnEnabling ∧
      step { cpu := { registers }, bus := memory, journal } =
        (.ok 16,
          { cpu :=
              { registers :=
                  { registers with
                    pc := Word.ofBytes (memory.peek (registers.sp + 1)) (memory.peek registers.sp)
                    sp := registers.sp + 2 }
                enabled := true }
            bus := memory.elapse 16
            journal }) := by
  let core : Core Flat := { cpu := { registers }, bus := memory, journal }
  -- More sources may be pending, but none is served while interrupts are forbidden.
  have unserved : core.serviceInterrupt = (false, core) := by
    have around : core.lookedAround = core := by
      rw [lookedAround_eq]
      rfl
    rw [serviceInterrupt_eq, around]
    cases core.pending.1 <;> rfl
  have fetched : core.fetchByte = (0xD9, core.setPc (registers.pc + 1)) := by
    rw [← found]
    rfl
  constructor
  · change core.activity = _
    simp only [activity, unserved, fetched]
    rfl
  · change core.step = _
    simp only [step, unserved, runInstruction, fetched]
    rfl

/-- The two steps of a source: its handler is entered and returns. -/
def visit (address : Word) (source : Interrupt) : List Stepped :=
  [{ activity := .dispatched source, result := .ok 20, next := source.vector },
    { activity := .executed .returnEnabling, result := .ok 16, next := address }]

/-- Some sources are served in their order and leave no other trace than the time they took,
the requests that are gone, and the two bytes below the stack. -/
structure Drains (core : Core Flat) (sources : List Interrupt) (after : Core Flat) : Prop where
  cpu : after.cpu = core.cpu.returned
  cycles : after.bus.cycles = core.bus.cycles + 36 * sources.length
  requested : after.bus.peek requestAddress =
    core.bus.peek requestAddress &&& ~~~Interrupt.masks sources
  kept : ∀ address, address ≠ requestAddress → address ≠ core.registers.sp - 1 →
    address ≠ core.registers.sp - 2 → after.bus.peek address = core.bus.peek address

theorem peek_entered (memory : Flat) (source : Interrupt) (sp target address : Word) :
    (entered memory source sp target).peek address =
      if sp - 2 = address then target.low
      else if sp - 1 = address then target.high
      else if requestAddress = address then memory.peek requestAddress &&& ~~~source.mask
      else memory.peek address := by
  simp only [entered, Flat.peek_write]

/-- The word below the stack is the one that was pushed. -/
theorem ofBytes_entered (memory : Flat) (source : Interrupt) (sp target : Word) :
    Word.ofBytes ((entered memory source sp target).peek (sp - 2 + 1))
      ((entered memory source sp target).peek (sp - 2)) = target := by
  have above : sp - 2 + 1 = sp - 1 := by grind
  have apart : sp - 2 ≠ sp - 1 := by grind
  rw [above, peek_entered, peek_entered, if_neg apart, if_pos rfl, if_pos rfl,
    Word.ofBytes_high_low]

/-- The entry of the handler that is served first. -/
theorem step_of_queue (returning : core.Returning) {source : Interrupt} {rest : List Interrupt}
    (queue : core.queue = source :: rest) :
    core.activity = .dispatched source ∧ core.step.1 = .ok 20 ∧
      ∃ journal, core.step.2 =
        { cpu :=
            { registers :=
                { core.registers with sp := core.registers.sp - 2, pc := source.vector } }
          bus := (entered core.bus source core.registers.sp core.cpu.returnAddress).elapse 20
          journal } := by
  have pending : core.pending.1 = some source := by
    rw [pending_eq, queue]
    rfl
  have dispatched : core.activity = .dispatched source :=
    (Permission.activity_eq_dispatched_iff core source).mpr
      ⟨returning.alive, returning.running, returning.enabled, pending⟩
  have entered := step_of_pending returning.alive returning.running returning.enabled pending
  refine ⟨dispatched, congrArg Prod.fst entered, ?_⟩
  have bus := core.bus_dispatch source
  have cpu := core.cpu_dispatch source
  simp only [returning.running, returning.alive, pending, Option.isNone_some,
    Bool.and_false] at cpu
  rw [entered]
  generalize core.lookedAround.dispatch source = entry at bus cpu ⊢
  obtain ⟨state, memory, journal⟩ := entry
  subst bus cpu
  exact ⟨_, rfl⟩

namespace Returning

variable {source : Interrupt} {rest : List Interrupt} {after : Core Flat}

theorem peek_entered_vector (returning : core.Returning) (source other : Interrupt)
    (target : Word) :
    (entered core.bus source core.registers.sp target).peek other.vector = 0xD9 := by
  have register : requestAddress ≠ other.vector := by
    cases other <;> decide
  rw [peek_entered, if_neg (returning.low.vector other), if_neg (returning.high.vector other),
    if_neg register, returning.handlers]

theorem peek_entered_request (returning : core.Returning) (source : Interrupt)
    (target : Word) :
    (entered core.bus source core.registers.sp target).peek requestAddress =
      core.bus.peek requestAddress &&& ~~~source.mask := by
  rw [peek_entered, if_neg returning.low.request, if_neg returning.high.request, if_pos rfl]

/-- What is served first is served in two steps. -/
theorem round (returning : core.Returning) (queue : core.queue = source :: rest) :
    core.trace 2 = visit core.cpu.returnAddress source ∧
      core.Drains [source] (core.stepped 2) := by
  obtain ⟨dispatched, cost, journal, entry⟩ := step_of_queue returning queue
  have found := returning.peek_entered_vector source source core.cpu.returnAddress
  have target := ofBytes_entered core.bus source core.registers.sp core.cpu.returnAddress
  have cleared := returning.peek_entered_request source core.cpu.returnAddress
  obtain ⟨executed, returned⟩ := step_of_return
    { core.registers with sp := core.registers.sp - 2, pc := source.vector }
    ((entered core.bus source core.registers.sp core.cpu.returnAddress).elapse 20) journal found
  have above : core.registers.sp - 2 + 2 = core.registers.sp := by grind
  simp only [Flat.peek_elapse, target, above] at returned
  have stepped : core.stepped 2 = core.step.2.step.2 := rfl
  have trace : core.trace 2 = [
      { activity := core.activity, result := core.step.1, next := core.step.2.registers.pc },
      { activity := core.step.2.activity, result := core.step.2.step.1,
        next := core.step.2.step.2.registers.pc }] := rfl
  rw [stepped, trace, dispatched, cost, entry, executed, returned]
  refine ⟨rfl, ?_, rfl, ?_, ?_⟩
  · simp only [State.returned, returning.running, returning.alive]
    rfl
  · rw [Flat.peek_elapse, Flat.peek_elapse, cleared, Interrupt.masks_singleton]
  · intro address register high low
    rw [Flat.peek_elapse, Flat.peek_elapse, peek_entered, if_neg low.symm, if_neg high.symm,
      if_neg register.symm]

end Returning

/-! ## Rounds -/

namespace Drains

variable {middle after : Core Flat} {first : Interrupt} {sources : List Interrupt}

theorem peek_enable (drains : core.Drains sources after) (returning : core.Returning) :
    after.bus.peek enableAddress = core.bus.peek enableAddress :=
  drains.kept _ (by decide) returning.high.enable.symm returning.low.enable.symm

theorem sp_eq (drains : core.Drains sources after) : after.registers.sp = core.registers.sp :=
  congrArg (·.registers.sp) drains.cpu

/-- The next source is served under the same circumstances. -/
theorem returning (drains : core.Drains sources after) (returning : core.Returning) :
    after.Returning where
  enabled := congrArg State.enabled drains.cpu
  running := (congrArg State.stopped drains.cpu).trans returning.running
  alive := (congrArg State.fault drains.cpu).trans returning.alive
  handlers source := by
    have register : source.vector ≠ requestAddress := by
      cases source <;> decide
    have kept := drains.kept _ register (returning.high.vector source).symm
      (returning.low.vector source).symm
    exact kept.trans (returning.handlers source)
  high := drains.sp_eq ▸ returning.high
  low := drains.sp_eq ▸ returning.low

/-- Behind the source that was served first the others wait as before. -/
theorem queue_eq (drains : core.Drains [first] after) (returning : core.Returning)
    (queue : core.queue = first :: sources) : after.queue = sources := by
  have cleared : after.bus.peek requestAddress =
      core.bus.peek requestAddress &&& ~~~first.mask := by
    rw [drains.requested, Interrupt.masks_singleton]
  rw [Core.queue, drains.peek_enable returning, cleared, ← UInt8.and_assoc]
  exact Interrupt.among_of_served queue

theorem trans (one : core.Drains [first] middle) (others : middle.Drains sources after) :
    core.Drains (first :: sources) after where
  cpu := by rw [others.cpu, one.cpu, State.returned_returned]
  cycles := by
    rw [others.cycles, one.cycles, List.length_singleton, List.length_cons]
    omega
  requested := by
    rw [others.requested, one.requested, Interrupt.masks_singleton,
      Interrupt.and_not_masks_cons]
  kept address register high low := by
    have later := others.kept address register
    rw [one.sp_eq] at later
    exact (later high low).trans (one.kept address register high low)

end Drains

/-- A whole queue is served, one source in two steps. -/
theorem Returning.drains (returning : core.Returning) {first : Interrupt}
    {sources : List Interrupt} (queue : core.queue = first :: sources) :
    core.trace (2 * (sources.length + 1)) =
        (first :: sources).flatMap (visit core.cpu.returnAddress) ∧
      core.Drains (first :: sources) (core.stepped (2 * (sources.length + 1))) := by
  obtain ⟨trace, drains⟩ := returning.round queue
  induction sources generalizing core first with
  | nil => exact ⟨trace, drains⟩
  | cons second sources ih =>
      -- One round leaves a core of the same kind whose queue is the rest.
      have ready := drains.returning returning
      have rest := drains.queue_eq returning queue
      obtain ⟨next, one⟩ := ready.round rest
      obtain ⟨later, others⟩ := ih ready rest next one
      have split : 2 * ((second :: sources).length + 1) = 2 + 2 * (sources.length + 1) := by
        rw [List.length_cons]
        omega
      rw [split, trace_add, stepped_add, trace, later, drains.cpu, State.returnAddress_returned]
      exact ⟨rfl, drains.trans others⟩

/-- Pending interrupts are served once each, in the order of their bits, and the program
notices nothing. Interrupts are permitted, handlers return at once, and the stack is clear of
them and of the two registers. Then the next steps are the entry and the return of one handler
after the other, for the sources whose bits are set in both registers, lowest bit first, at 36
cycles each. Behind them the processor is awake and where the program was, or at the halt
before it if the next fetch was to be repeated; interrupts are permitted, and all other
registers are as before. The requests that were served are gone, and no other byte of the
memory has changed but the two below the stack. -/
theorem queue_drains (core : Core Flat) (returning : core.Returning)
    (some : core.bus.peek 0xFFFF &&& core.bus.peek 0xFF0F &&& 0x1F ≠ 0) :
    let bits := core.bus.peek 0xFFFF &&& core.bus.peek 0xFF0F &&& 0x1F
    let sources := core.queue
    let registers := core.cpu.registers
    let target := if core.cpu.repeatFetch then registers.pc - 1 else registers.pc
    let after := core.stepped (2 * sources.length)
    (∀ source : Interrupt, source ∈ sources ↔ bits.bit source.index = true) ∧
      sources.Pairwise (fun earlier later => earlier.index < later.index) ∧
      core.trace (2 * sources.length) = sources.flatMap (fun source =>
        [{ activity := .dispatched source, result := .ok 20
           next := 0x40 + 8 * UInt16.ofNat source.index },
          { activity := .executed .returnEnabling, result := .ok 16, next := target }]) ∧
      after.bus.cycles = core.bus.cycles + 36 * sources.length ∧
      after.cpu =
        { core.cpu with
          registers := { registers with pc := target }
          enabled := true
          halted := false
          repeatFetch := false
          enableRequested := false
          enableArmed := false } ∧
      after.bus.peek 0xFF0F = core.bus.peek 0xFF0F &&& ~~~bits ∧
      ∀ address, address ≠ 0xFF0F → address ≠ registers.sp - 1 → address ≠ registers.sp - 2 →
        after.bus.peek address = core.bus.peek address := by
  intro bits sources registers target after
  have queued : Interrupt.among bits = sources := Interrupt.among_and_sources _
  have served : Interrupt.masks sources = bits := Interrupt.masks_among _
  refine ⟨fun source => queued ▸ Interrupt.mem_among, Interrupt.among_ascending _, ?_⟩
  have visited (source : Interrupt) : visit target source =
      [{ activity := .dispatched source, result := .ok 20
         next := 0x40 + 8 * UInt16.ofNat source.index },
        { activity := .executed .returnEnabling, result := .ok 16, next := target }] := by
    rw [visit, Interrupt.vector_eq]
  have waiting : sources ≠ [] := by
    intro empty
    exact some (served.symm.trans (congrArg Interrupt.masks empty))
  obtain ⟨first, others, queue⟩ := List.exists_cons_of_ne_nil waiting
  have steps : sources.length = others.length + 1 := congrArg List.length queue
  obtain ⟨trace, drains⟩ := returning.drains queue
  rw [← queue, ← steps] at trace drains
  simp only [← visited]
  exact ⟨trace, drains.cycles, drains.cpu, served ▸ drains.requested, drains.kept⟩

/-- A processor that came to a halt with interrupts about to be permitted and three of them
pending, on memory that is full of instructions that return. -/
def interrupted : Core Flat where
  cpu := { registers := { a := 0x2A, sp := 0xD000, pc := 2 }, enabled := true, repeatFetch := true }
  bus := (Flat.poke { cells := .replicate _ 0xD9 } 0xFFFF 0xFB).poke 0xFF0F 0x17

theorem peek_interrupted (address : Word) :
    interrupted.bus.peek address =
      if 0xFF0F = address then 0x17 else if 0xFFFF = address then 0xFB else 0xD9 := by
  simp only [interrupted, Flat.peek_poke]
  simp only [Flat.peek, Vector.getElem_replicate]

/-- The three are served in six steps, and the program goes on at the halt. -/
theorem queue_drains_of_interrupted :
    let after := interrupted.stepped 6
    interrupted.Returning ∧
      interrupted.bus.peek 0xFFFF &&& interrupted.bus.peek 0xFF0F &&& 0x1F = 0x13 ∧
      (interrupted.trace 6).map (·.next) = [0x40, 1, 0x48, 1, 0x60, 1] ∧
      after.bus.cycles = 108 ∧ after.cpu.registers = { a := 0x2A, sp := 0xD000, pc := 1 } ∧
      after.bus.peek 0xFF0F = 0x04 := by
  have enable : interrupted.bus.peek 0xFFFF = 0xFB := peek_interrupted 0xFFFF
  have request : interrupted.bus.peek 0xFF0F = 0x17 := peek_interrupted 0xFF0F
  have handlers (source : Interrupt) : interrupted.bus.peek source.vector = 0xD9 := by
    rw [peek_interrupted]
    cases source <;> rfl
  have returning : interrupted.Returning := by
    refine ⟨rfl, rfl, rfl, handlers, ?_, ?_⟩ <;>
      exact ⟨by decide, by decide, fun source => by cases source <;> decide⟩
  have queue : interrupted.queue = [.vblank, .stat, .joypad] := by
    rw [Core.queue, enableAddress, requestAddress, enable, request]
    decide
  have steps : 2 * interrupted.queue.length = 6 := by
    rw [queue]
    rfl
  obtain ⟨-, -, trace, cycles, cpu, requested, -⟩ :=
    queue_drains interrupted returning (by rw [enable, request]; decide)
  have start : interrupted.bus.cycles = 0 := rfl
  rw [steps] at trace cpu requested cycles
  rw [queue] at trace
  rw [queue, start] at cycles
  rw [enable, request] at requested
  refine ⟨returning, by rw [enable, request]; rfl, ?_, cycles, ?_, requested⟩
  · rw [trace]
    rfl
  · rw [cpu]
    rfl

end Core

end GameBoy.Cpu
