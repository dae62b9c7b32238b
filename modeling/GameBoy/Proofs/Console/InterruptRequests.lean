import GameBoy.Proofs.Console.Screen

/-!
# Interrupt requests

No request is lost. One access to the board keeps every request and adds those that it
raises: time by the timer and by the dots of the screen, a write by a rising edge of the
interrupt line alone. Only a write of the request register forgets requests, and only the
dispatch of an interrupt takes its own one away. Which interrupt that is follows from the
two registers: the lowest bit that is set in both.
-/

namespace GameBoy

open Cpu

namespace Board

/-- What raises an interrupt in a step, on the board that an access finds. -/
inductive Raises (board : Board) : Access → Interrupt → Prop where
  /-- A cycle of the timer. -/
  | cycle {cycles earlier : Nat} (during : earlier < cycles)
      (raised : (board.timer.run earlier).1.tick.2 = true) :
      Raises board (.elapse cycles) .timer
  /-- A dot of the screen. -/
  | dot {dots earlier : Nat} (during : earlier < dots) {signal : Lcd.Signal}
      (reported : signal ∈ (board.lcd.run earlier).1.tick.2) {source : Interrupt}
      (requests : signal.requests source = true) : Raises board (.elapse dots) source
  /-- A write to the control register of the screen, to its status register or to the line
  that it compares, if it lets the interrupt line rise. -/
  | edge {address : Word} (register : address = 0xFF40 ∨ address = 0xFF41 ∨ address = 0xFF45)
      {value : Byte} (low : ¬ board.lcd.StatSignal)
      (high : (board.access (.write address value)).lcd.StatSignal) :
      Raises board (.write address value) .stat

end Board

/-! ## One access -/

theorem Timer.run_requests_iff (timer : Timer) (cycles : Nat) :
    (timer.run cycles).2 ≠ 0 ↔ ∃ earlier < cycles, (timer.run earlier).1.tick.2 = true := by
  induction cycles generalizing timer with
  | zero => simp [run]
  | succ cycles ih =>
      have later := ih timer.tick.1
      rw [Nat.exists_lt_succ_left]
      refine Iff.trans ?_ (or_congr Iff.rfl later)
      simp only [run]
      cases timer.tick.2 <;> simp

theorem Lcd.any_run_iff (lcd : Lcd) (dots : Nat) (holds : Lcd.Signal → Bool) :
    (lcd.run dots).2.any holds = true ↔
      ∃ earlier < dots, ∃ signal ∈ (lcd.run earlier).1.tick.2, holds signal = true := by
  induction dots generalizing lcd with
  | zero => simp [run]
  | succ dots ih =>
      have later := ih lcd.tick.1
      rw [Nat.exists_lt_succ_left]
      refine Iff.trans ?_ (or_congr Iff.rfl later)
      simp only [run, List.any_append, Bool.or_eq_true]
      exact or_congr List.any_eq_true Iff.rfl

theorem Lcd.source_of_requests {signal : Lcd.Signal} {source : Interrupt}
    (requests : signal.requests source = true) :
    source = .stat ∨ source = .vblank ∧ signal = .verticalBlank := by
  cases signal with
  | switchedOff | switchedOn => exact nomatch (Board.mask_none source).symm.trans requests
  | statEdge =>
      have same := (Board.mask_request .stat source).symm.trans requests
      exact .inl (of_decide_eq_true same).symm
  | verticalBlank =>
      have same := (Board.mask_request .vblank source).symm.trans requests
      exact .inr ⟨(of_decide_eq_true same).symm, rfl⟩

theorem Lcd.verticalBlank_notMem_write (lcd : Lcd) (register : Lcd.Register) (value : Byte) :
    Signal.verticalBlank ∉ (lcd.write register value).2 := by
  cases register with
  | control =>
      simp only [write, writeControl]
      split
      · simp [switchOff]
      · split
        · simpa [switchOn] using verticalBlank_notMem_enter _ _
        · exact List.not_mem_nil
  | status | lineCompare => exact verticalBlank_notMem_updateStat _
  | _ => exact List.not_mem_nil

/-- A change without time asks for an interrupt only where the interrupt line rises. -/
theorem Lcd.any_requests_perform {lcd : Lcd} (sound : lcd.Sound) (current : lcd.LineCurrent)
    {action : Action} (instant : ∀ dots, action ≠ .run dots) (source : Interrupt) :
    (lcd.perform action).2.any (·.requests source) = true ↔
      source = .stat ∧ ¬ lcd.StatSignal ∧ (lcd.perform action).1.StatSignal := by
  have single : action.Single := by
    cases action with
    | run dots => exact absurd rfl (instant dots)
    | write | writeVram | writeOam | transfer => trivial
  have silent : Signal.verticalBlank ∉ (lcd.perform action).2 := by
    cases action with
    | run dots => exact absurd rfl (instant dots)
    | write register value => exact lcd.verticalBlank_notMem_write register value
    | writeVram | writeOam | transfer => exact List.not_mem_nil
  have follows := follows_perform sound current single
  have rises : (lcd.perform action).2.any (·.requests .stat) = true ↔
      ¬ lcd.StatSignal ∧ (lcd.perform action).1.StatSignal := by
    rw [← current.statLine_iff, ← follows.current.statLine_iff, Bool.not_eq_true,
      List.any_eq_true, ← List.countP_pos_iff, ← requestCount, follows.requests]
    split
    next rising => simpa using rising
    next level => simpa using level
  constructor
  · intro asked
    obtain ⟨signal, reported, requests⟩ := List.any_eq_true.mp asked
    rcases source_of_requests requests with rfl | ⟨-, rfl⟩
    · exact ⟨rfl, rises.mp asked⟩
    · exact absurd reported silent
  · rintro ⟨rfl, rising⟩
    exact rises.mpr rising

namespace Board

variable {board : Board}

theorem requests_elapse (cycles : Nat) (source : Interrupt) :
    (board.access (.elapse cycles)).interrupts.requests source = true ↔
      board.interrupts.requests source = true ∨ board.Raises (.elapse cycles) source := by
  have told :=
    requests_receiveAll (board.runTimer cycles).interrupts (board.lcd.run cycles).2 source
  have timed : (board.runTimer cycles).interrupts.requests source = true ↔
      board.interrupts.requests source = true ∨
        .timer = source ∧ (board.timer.run cycles).2 ≠ 0 := by
    simp only [runTimer]
    split
    next none => simp [none]
    next some => simp [InterruptController.requests_request, some]
  change (receiveAll (board.runTimer cycles).interrupts (board.lcd.run cycles).2).1.requests
    source = true ↔ _
  rw [told, Bool.or_eq_true, timed, Timer.run_requests_iff, Lcd.any_run_iff]
  constructor
  · rintro ((kept | ⟨rfl, earlier, during, raised⟩) | ⟨earlier, during, signal, reported, requests⟩)
    · exact .inl kept
    · exact .inr (.cycle during raised)
    · exact .inr (.dot during reported requests)
  · rintro (kept | raises)
    · exact .inl (.inl kept)
    · cases raises with
      | cycle during raised => exact .inl (.inr ⟨rfl, _, during, raised⟩)
      | dot during reported requests => exact .inr ⟨_, during, _, reported, requests⟩

/-- Only three registers of the controller can let the interrupt line rise. -/
theorem register_of_rise (low : ¬ board.lcd.StatSignal) {address : Word} {value : Byte}
    (high : (board.access (.write address value)).lcd.StatSignal) :
    address = 0xFF40 ∨ address = 0xFF41 ∨ address = 0xFF45 := by
  rw [lcd_access] at high
  cases found : board.lcdAction? (.write address value) with
  | none =>
      rw [found] at high
      exact absurd high low
  | some action =>
      rw [found] at high
      change (board.lcd.perform action).1.StatSignal at high
      have instant := board.lcdAction?_ne_run address value found
      cases action with
      | run dots => exact absurd rfl (instant dots)
      | write register written =>
          have place := (board.address_of_lcdAction? found).1
          cases register with
          | control => exact .inl (UInt16.toNat_inj.mp place)
          | status => exact .inr (.inl (UInt16.toNat_inj.mp place))
          | lineCompare => exact .inr (.inr (UInt16.toNat_inj.mp place))
          | scrollY | scrollX | line | backgroundPalette | spritePalette0 | spritePalette1
          | windowY | windowX => exact absurd high low
      | writeVram offset written =>
          simp only [Lcd.perform, Lcd.writeVram] at high
          split at high <;> exact absurd high low
      | writeOam offset written =>
          simp only [Lcd.perform, Lcd.writeOam] at high
          split at high <;> exact absurd high low
      | transfer => exact absurd high low

theorem requests_write_iff (screen : board.ScreenSound) {address : Word}
    (other : address ≠ AddressSpace.requestAddress) (value : Byte) (source : Interrupt) :
    (board.access (.write address value)).interrupts.requests source = true ↔
      board.interrupts.requests source = true ∨ board.Raises (.write address value) source := by
  rw [board.requests_write other, Bool.or_eq_true]
  refine or_congr Iff.rfl ?_
  have rises : (board.lcdAction? (.write address value)).any (fun action =>
      (board.lcd.perform action).2.any (·.requests source)) = true ↔
      source = .stat ∧ ¬ board.lcd.StatSignal ∧
        (board.access (.write address value)).lcd.StatSignal := by
    rw [lcd_access]
    cases found : board.lcdAction? (.write address value) with
    | none =>
        refine iff_of_false nofun ?_
        rintro ⟨-, low, high⟩
        exact low high
    | some action =>
        exact Lcd.any_requests_perform screen.sound screen.current
          (board.lcdAction?_ne_run address value found) source
  rw [rises]
  constructor
  · rintro ⟨rfl, low, high⟩
    exact .edge (register_of_rise low high) low high
  · intro raises
    cases raises with
    | edge _ low high => exact ⟨rfl, low, high⟩

/-- An access keeps every request, and adds those that it raises. -/
theorem requests_access (screen : board.ScreenSound) {access : Access}
    (other : ∀ value, access ≠ .write AddressSpace.requestAddress value)
    (source : Interrupt) :
    (board.access access).interrupts.requests source = true ↔
      board.interrupts.requests source = true ∨ board.Raises access source := by
  cases access with
  | elapse cycles => exact requests_elapse cycles source
  | write address value =>
      refine requests_write_iff screen (fun same => ?_) value source
      exact other value (same ▸ rfl)

/-- Some accesses keep every request, and add those that one of them raises. -/
theorem requests_accessAll (screen : board.ScreenSound) {accesses : List Access}
    (other : ∀ value, .write AddressSpace.requestAddress value ∉ accesses)
    (source : Interrupt) :
    (board.accessAll accesses).interrupts.requests source = true ↔
      board.interrupts.requests source = true ∨
        ∃ earlier access later, accesses = earlier ++ access :: later ∧
          (board.accessAll earlier).Raises access source := by
  induction accesses generalizing board with
  | nil =>
      refine ⟨.inl, fun kept => kept.resolve_right ?_⟩
      rintro ⟨earlier, access, later, split, -⟩
      simp at split
  | cons access accesses ih =>
      have spared : ∀ value, access ≠ .write AddressSpace.requestAddress value :=
        fun value same => other value (same ▸ List.mem_cons_self)
      have here := requests_access screen spared source
      have rest := ih (screen.access access)
        (fun value member => other value (List.mem_cons_of_mem _ member))
      refine rest.trans ?_
      rw [here, or_assoc]
      refine or_congr Iff.rfl ⟨?_, ?_⟩
      · rintro (raises | ⟨earlier, later_access, later, rfl, raises⟩)
        · exact ⟨[], access, accesses, rfl, raises⟩
        · exact ⟨access :: earlier, later_access, later, rfl, raises⟩
      · rintro ⟨earlier, raising, later, split, raises⟩
        cases earlier with
        | nil =>
            cases split
            exact .inl raises
        | cons first earlier =>
            cases split
            exact .inr ⟨earlier, raising, later, rfl, raises⟩

/-! ## The two registers -/

theorem region_enable :
    Memory.Region.ofAddress AddressSpace.enableAddress = .interruptEnable := by
  decide

theorem region_request : Memory.Region.ofAddress AddressSpace.requestAddress = .device 0x0F := by
  decide

theorem read_enable (board : Board) :
    board.read AddressSpace.enableAddress = board.interrupts.enabled := by
  rw [Board.read, region_enable]
  rfl

theorem read_request (board : Board) :
    board.read AddressSpace.requestAddress = board.interrupts.readRequested := by
  rw [Board.read, region_request]
  rfl

end Board

/-- The bits that read as one belong to no source. -/
theorem InterruptController.readRequested_and_sources (controller : InterruptController) :
    controller.readRequested &&& sources = controller.requested &&& sources := by
  have unused : ~~~sources &&& sources = 0 := rfl
  rw [readRequested, Byte.and_or_distrib_right, unused, UInt8.or_zero]

/-! ## Steps -/

namespace Console

variable {console : Console}

theorem peek_enable (console : Console) :
    console.peek AddressSpace.enableAddress = console.board.interrupts.enabled :=
  console.board.read_enable

theorem peek_request (console : Console) :
    console.peek AddressSpace.requestAddress = console.board.interrupts.readRequested :=
  console.board.read_request

/-- The bits that no source has are set, the others are the requests. -/
theorem bit_peek_request (console : Console) (source : Interrupt) :
    (console.peek 0xFF0F).bit source.index = console.board.interrupts.requests source := by
  have unused : (~~~InterruptController.sources).bit source.index = false := by
    cases source <;> rfl
  refine (congrArg (Byte.bit · source.index) console.peek_request).trans ?_
  simp only [Byte.bit] at unused
  simp only [InterruptController.readRequested, InterruptController.requests, Byte.bit,
    UInt8.toNat_or, Nat.testBit_or, unused, Bool.or_false]

/-- The bits that decide about dispatch, read by the host. -/
def servable (console : Console) : Byte :=
  console.peek AddressSpace.enableAddress &&& console.peek AddressSpace.requestAddress &&&
    InterruptController.sources

theorem servable_eq (console : Console) :
    console.servable =
      console.board.interrupts.enabled &&& console.board.interrupts.requested &&&
        InterruptController.sources := by
  rw [servable, peek_enable, peek_request, UInt8.and_assoc,
    InterruptController.readRequested_and_sources, UInt8.and_assoc]

theorem pending_eq (console : Console) :
    (Bus.pending console.board).1 = Interrupt.highest console.servable := by
  rw [servable_eq, Interrupt.highest_and_sources]
  rfl

theorem requests_acknowledged (board : Board) (activity : Activity) (source : Interrupt) :
    (board.acknowledged activity).interrupts.requests source = true ↔
      board.interrupts.requests source = true ∧ activity ≠ .dispatched source := by
  cases activity with
  | dispatched other =>
      simp [Board.acknowledged, InterruptController.requests_acknowledge]
  | faulted | idle | executed => simp [Board.acknowledged]

/-- Interrupt requests are never dropped, and are served by priority. In every console that
can occur, a step with interrupts enabled, a processor that is neither stopped nor at fault
and a request that is enabled dispatches the source of the lowest such bit; and no other
step dispatches one. Unless the step writes the request register, a request is there after
it exactly if it was there before and is not the one dispatched, or if an access of the step
raised it: a cycle of the timer, a dot of the screen, or a write that let the interrupt line
rise. -/
theorem interrupts_of_step (config : Config) (history : List Operation) :
    let console := after config history
    let outcome := console.step
    let bits := console.peek 0xFFFF &&& console.peek 0xFF0F &&& 0x1F
    let ready := console.cpu.enabled = true ∧ console.cpu.stopped = false ∧
      console.cpu.fault = none ∧ bits ≠ 0
    let accesses := console.moveAccesses .step
    let board := console.board.acknowledged console.activity
    console.core.StepResult console.activity console.core.step ∧
      (ready → ∃ source : Interrupt,
        (bits.bit source.index = true ∧ ∀ lower < source.index, bits.bit lower = false) ∧
          console.activity = .dispatched source ∧ outcome.result = .ok 20 ∧
          outcome.console.cpu.registers.pc = 0x40 + 8 * UInt16.ofNat source.index ∧
          outcome.console.cpu.enabled = false) ∧
      (¬ ready → ∀ source, console.activity ≠ .dispatched source) ∧
      outcome.console.board = board.accessAll accesses ∧
      ((∀ value, .write 0xFF0F value ∉ accesses) → ∀ source : Interrupt,
        (outcome.console.peek 0xFF0F).bit source.index = true ↔
          (console.peek 0xFF0F).bit source.index = true ∧
              console.activity ≠ .dispatched source ∨
            ∃ earlier access later, accesses = earlier ++ access :: later ∧
              (board.accessAll earlier).Raises access source) := by
  intro console outcome bits ready accesses board
  have pending : (Bus.pending console.board).1 = Interrupt.highest bits := console.pending_eq
  have covered : bits &&& InterruptController.sources = bits := by
    have twice : InterruptController.sources &&& InterruptController.sources =
        InterruptController.sources := rfl
    exact (UInt8.and_assoc _ _ _).trans (congrArg _ twice)
  refine ⟨console.core.stepResult, ?_, ?_, console.board_step, ?_⟩
  · rintro ⟨enabled, running, alive, some⟩
    cases found : Interrupt.highest bits with
    | none => exact absurd (covered ▸ (Interrupt.highest_eq_none_iff bits).mp found) some
    | some source =>
        have dispatched : console.activity = .dispatched source :=
          (Permission.activity_eq_dispatched_iff console.core source).mpr
            ⟨alive, running, enabled, pending.trans found⟩
        exact ⟨source, Interrupt.highest_eq_some found, dispatched, step_of_dispatched dispatched⟩
  · intro unready source dispatched
    obtain ⟨alive, running, enabled, asked⟩ :=
      (Permission.activity_eq_dispatched_iff console.core source).mp dispatched
    refine unready ⟨enabled, running, alive, fun zero => ?_⟩
    have found : Interrupt.highest bits = some source := pending.symm.trans asked
    rw [zero] at found
    exact nomatch found
  · intro spared source
    have screen := (screenSound_after config history).acknowledged console.activity
    have told := Board.requests_accessAll screen spared source
    rw [bit_peek_request outcome.console, bit_peek_request console, console.board_step]
    rwa [requests_acknowledged] at told

/-- A cartridge whose program requests two interrupts and enables both. -/
def twoRequests : Image :=
  Cartridge.shortestImage [(0x100, 0x3E), (0x101, 0x03), (0x102, 0xE0), (0x103, 0x0F),
    (0x104, 0xE0), (0x105, 0xFF), (0x106, 0xFB)]

/-- Of the two interrupts the first is dispatched, and the second stays requested. -/
theorem vblank_dispatched_before_stat :
    let console := after { ramFill := .zeros }
      (.loadCartridge twoRequests :: List.replicate 5 .step)
    console.activity = .dispatched .vblank ∧ console.step.console.cpu.registers.pc = 0x40 ∧
      (console.step.console.peek 0xFF0F).bit 1 = true := by
  intro console
  have bits : console.peek 0xFFFF &&& console.peek 0xFF0F &&& 0x1F = 0x03 := by decide +kernel
  have wrote : console.moveAccesses .step =
      [.write 0xFFFD 0x01, .write 0xFFFC 0x08, .elapse 20] := by
    decide +kernel
  obtain ⟨-, serves, -, -, keeps⟩ := interrupts_of_step { ramFill := .zeros }
    (.loadCartridge twoRequests :: List.replicate 5 .step)
  obtain ⟨source, ⟨-, least⟩, dispatched, -, entered, -⟩ := serves (by decide +kernel)
  have first : source = .vblank := by
    cases source with
    | vblank => rfl
    | stat | timer | serial | joypad =>
        have low := least 0 (by decide)
        rw [bits] at low
        exact nomatch low
  subst first
  have handler : (0x40 : Word) + 8 * UInt16.ofNat Interrupt.vblank.index = 0x40 := by decide
  rw [handler] at entered
  refine ⟨dispatched, ?_, (keeps ?_ .stat).mpr (.inl ⟨by decide +kernel, ?_⟩)⟩
  -- The two sides agree as they stand; unfolding them would run the console.
  · with_reducible exact entered
  · intro value written
    rw [wrote] at written
    simp at written
  · rw [dispatched]
    nofun

end Console

end GameBoy
