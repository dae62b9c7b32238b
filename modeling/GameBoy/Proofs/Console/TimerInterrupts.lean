import GameBoy.Proofs.Console.Run
import GameBoy.Proofs.Cpu.Priority
import GameBoy.Proofs.Timer.Alignment

/-!
# Timer interrupts

The timer sees a run of the console as a list of its own actions: time passes, and
the processor writes the four timer registers, often by accident, since a push or an
interrupt's entry may hit them as well. An instruction never writes both registers
that can make the watched signal fall, because they are not next to each other. So
the timer's history in every run is faithful: no interrupt is lost, duplicated or
invented.
-/

namespace GameBoy

open Cpu

/-- The timer register at an address. -/
def timerRegister? (address : Word) : Option Timer.Register :=
  match address.toNat with
  | 0xFF04 => some .divider
  | 0xFF05 => some .count
  | 0xFF06 => some .modulo
  | 0xFF07 => some .control
  | _ => none

/-- The write of a timer register that an access is, if it is one. -/
def timerWrite? : Access → Option (Timer.Register × Byte)
  | .write address value => (timerRegister? address).map (·, value)
  | .elapse _ => none

/-- What an access does to the timer. -/
def timerActions : Access → List Timer.Action
  | .write address value => Timer.writeActions (timerWrite? (.write address value)).toList
  | .elapse cycles => List.replicate cycles .tick

namespace Memory

/-- The timer register that a device register is, if it is one. -/
def DeviceRegister.timer? : DeviceRegister → Option Timer.Register
  | .divider => some .divider
  | .timerCount => some .count
  | .timerModulo => some .modulo
  | .timerControl => some .control
  | _ => none

theorem Region.ofAddress_eq_device_iff {address : Word} {index : Fin 0x80} :
    ofAddress address = .device index ↔ address.toNat = 0xFF00 + index.val := by
  have inside := index.isLt
  fun_cases ofAddress address with
  | case8 short place _ _ _ _ _ _ above below =>
      have start : 0xFF00 ≤ place := Nat.le_of_not_lt above
      rw [device.injEq, Fin.ext_iff]
      simp only
      omega
  | _ =>
      constructor
      · intro device
        exact nomatch device
      · intro same
        omega

theorem timerRegister?_of_device {address : Word} {index : Fin 0x80}
    (device : Region.ofAddress address = .device index) :
    timerRegister? address = (DeviceRegister.ofIndex index).timer? := by
  rw [timerRegister?, Region.ofAddress_eq_device_iff.mp device]
  clear device
  revert index
  decide

theorem timerRegister?_of_other {address : Word}
    (other : ∀ index, Region.ofAddress address ≠ .device index) :
    timerRegister? address = none := by
  unfold timerRegister?
  split
  next place => exact absurd (Region.ofAddress_eq_device_iff.mpr place) (other 4)
  next place => exact absurd (Region.ofAddress_eq_device_iff.mpr place) (other 5)
  next place => exact absurd (Region.ofAddress_eq_device_iff.mpr place) (other 6)
  next place => exact absurd (Region.ofAddress_eq_device_iff.mpr place) (other 7)
  next => rfl

end Memory

namespace Board

open Memory

variable (board : Board)

theorem timer_writeDevice (register : DeviceRegister) (value : Byte) :
    (board.writeDevice register value).1.timer =
      register.timer?.elim board.timer (board.timer.writeRegister value) := by
  cases register with
  | bootOverlay =>
      simp only [writeDevice, unmapBoot]
      split <;> rfl
  | _ => rfl

/-- A write reaches the timer exactly at its registers. -/
theorem timer_write (address : Word) (value : Byte) :
    (board.write address value).1.timer =
      (timerRegister? address).elim board.timer (board.timer.writeRegister value) := by
  rw [write]
  cases region : Region.ofAddress address with
  | device index =>
      rw [timerRegister?_of_device region]
      exact board.timer_writeDevice _ value
  | _ =>
      rw [timerRegister?_of_other (by simp [region])]
      rfl

theorem timer_elapse (cycles : Nat) :
    (board.elapse cycles).1.timer = board.timer.performAll (List.replicate cycles .tick) :=
  congrArg Prod.fst (board.timer.run_eq 0 cycles)

/-- The timer is where the accesses so far bring it. -/
def Told (start : Timer) (recorded : Recorded Board) : Prop :=
  recorded.bus.timer = start.performAll (recorded.accesses.flatMap timerActions)

/-- The processor reaches the timer by its accesses alone. -/
theorem keeps_told (start : Timer) : Keeps (Told start) where
  read address told := told
  write {recorded} address value told := by
    refine (recorded.bus.timer_write address value).trans ?_
    rw [told]
    change _ = start.performAll
      ((recorded.accesses ++ [Access.write address value]).flatMap timerActions)
    rw [List.flatMap_append, Timer.performAll_append]
    simp only [List.flatMap_singleton, timerActions, timerWrite?]
    cases timerRegister? address <;> rfl
  elapse {recorded} cycles _ told := by
    refine (recorded.bus.timer_elapse cycles).trans ?_
    rw [told]
    change _ = start.performAll
      ((recorded.accesses ++ [Access.elapse cycles]).flatMap timerActions)
    rw [List.flatMap_append, Timer.performAll_append, List.flatMap_singleton]
    rfl
  pending told := told
  acknowledge _ told := told

end Board

/-! ## What instructions do to the timer -/

section Bouts

theorem toNat_of_gates {address : Word} {register : Timer.Register}
    (found : timerRegister? address = some register) (gates : register.gates = true) :
    address.toNat = 0xFF04 ∨ address.toNat = 0xFF07 := by
  unfold timerRegister? at found
  split at found
  next place => exact .inl place
  next place =>
    cases found
    exact nomatch gates
  next place =>
    cases found
    exact nomatch gates
  next place => exact .inr place
  next => exact nomatch found

/-- Two registers that can make the signal fall are not next to each other. -/
theorem not_gates_of_adjacent {address : Word} {first second : Timer.Register}
    (lower : timerRegister? address = some first)
    (upper : timerRegister? (address + 1) = some second) :
    ¬ (first.gates = true ∧ second.gates = true) := by
  rintro ⟨gates, again⟩
  have next : (address + 1).toNat = (address.toNat + 1) % 0x10000 := UInt16.toNat_add address 1
  have here := toNat_of_gates lower gates
  have there := toNat_of_gates upper again
  omega

/-- The writes of a timer register among some accesses. -/
def timerWrites (accesses : List Access) : List (Timer.Register × Byte) :=
  accesses.filterMap timerWrite?

theorem flatMap_timerActions {writes : List Access} (stores : Stores writes) :
    writes.flatMap timerActions = Timer.writeActions (timerWrites writes) := by
  cases stores with
  | byte address value =>
      simp only [timerWrites, timerActions, timerWrite?, List.flatMap_singleton,
        List.filterMap_cons, List.filterMap_nil]
      cases timerRegister? address <;> rfl
  | upward address low high =>
      simp only [timerWrites, timerActions, timerWrite?, List.flatMap_cons, List.flatMap_nil,
        List.filterMap_cons, List.filterMap_nil]
      cases timerRegister? address <;> cases timerRegister? (address + 1) <;> rfl
  | downward address low high =>
      simp only [timerWrites, timerActions, timerWrite?, List.flatMap_cons, List.flatMap_nil,
        List.filterMap_cons, List.filterMap_nil]
      cases timerRegister? address <;> cases timerRegister? (address + 1) <;> rfl

theorem timerWrite?_eq_some {address : Word} {value : Byte} {write : Timer.Register × Byte}
    (found : timerWrite? (.write address value) = some write) :
    timerRegister? address = some write.1 := by
  obtain ⟨register, hit, rfl⟩ := Option.map_eq_some_iff.mp found
  exact hit

theorem pairwise_timerWrites {writes : List Access} (stores : Stores writes) :
    (timerWrites writes).Pairwise fun first second =>
      ¬ (first.1.gates = true ∧ second.1.gates = true) := by
  rw [timerWrites, List.pairwise_filterMap]
  cases stores with
  | byte address value => exact List.pairwise_singleton _ _
  | upward address low high =>
      refine List.pairwise_pair.mpr fun first here second there => ?_
      exact not_gates_of_adjacent (timerWrite?_eq_some here) (timerWrite?_eq_some there)
  | downward address low high =>
      refine List.pairwise_pair.mpr fun first here second there gates => ?_
      exact not_gates_of_adjacent (timerWrite?_eq_some there) (timerWrite?_eq_some here)
        gates.symm

/-- What a step does to the timer. -/
theorem exists_bout {accesses : List Access} (footprint : Footprint accesses) :
    ∃ bout : Timer.Bout, accesses.flatMap timerActions = bout.actions := by
  cases footprint with
  | still => exact ⟨⟨[], 0, .nil, .inl rfl⟩, rfl⟩
  | quiet whole =>
      obtain ⟨machineCycles, rfl⟩ := whole
      exact ⟨⟨[], machineCycles, .nil, .inl rfl⟩, List.flatMap_singleton _ _⟩
  | storing stores whole long =>
      obtain ⟨machineCycles, rfl⟩ := whole
      refine ⟨⟨_, machineCycles, pairwise_timerWrites stores, .inr (.inl (by omega))⟩, ?_⟩
      rw [List.flatMap_append, flatMap_timerActions stores, List.flatMap_singleton]
      rfl
  | stopping =>
      refine ⟨⟨[(.divider, 0)], 1, List.pairwise_singleton _ _, .inr (.inr ⟨by decide, ?_⟩)⟩, rfl⟩
      exact List.forall_mem_singleton.mpr rfl

theorem exists_bouts {steps : List (List Access)}
    (footprints : ∀ accesses ∈ steps, Footprint accesses) :
    ∃ bouts : List Timer.Bout,
      steps.flatMap (·.flatMap timerActions) = bouts.flatMap Timer.Bout.actions := by
  induction steps with
  | nil => exact ⟨[], rfl⟩
  | cons accesses steps ih =>
      obtain ⟨first, rest⟩ := List.forall_mem_cons.mp footprints
      obtain ⟨bout, same⟩ := exists_bout first
      obtain ⟨bouts, others⟩ := ih rest
      exact ⟨bout :: bouts, congrArg₂ (· ++ ·) same others⟩

end Bouts

/-! ## Requests -/

namespace InterruptController

/-- Whether an interrupt is requested. -/
def requests (controller : InterruptController) (interrupt : Interrupt) : Bool :=
  controller.requested.bit interrupt.index

theorem requests_request (controller : InterruptController) (first second : Interrupt) :
    (controller.request first).requests second =
      (controller.requests second || decide (first = second)) := by
  rw [← Interrupt.bit_mask]
  simp only [requests, request, Byte.bit, UInt8.toNat_or, Nat.testBit_or]

theorem requests_acknowledge (controller : InterruptController)
    (first second : Interrupt) :
    (controller.acknowledge first).requests second =
      (controller.requests second && decide (first ≠ second)) := by
  rw [← Interrupt.bit_not_mask]
  simp only [requests, acknowledge, Byte.bit, UInt8.toNat_and, Nat.testBit_and]

end InterruptController

namespace Board

open Memory

variable (board : Board)

/-- The controller of the screen does not request the timer's interrupt. -/
theorem requests_timer_receiveAll (interrupts : InterruptController)
    (signals : List Lcd.Signal) :
    (receiveAll interrupts signals).1.requests .timer = interrupts.requests .timer := by
  induction signals generalizing interrupts with
  | nil => rfl
  | cons signal signals ih =>
      rw [receiveAll, ih]
      cases signal with
      | switchedOff | switchedOn => rfl
      | statEdge | verticalBlank =>
          exact (InterruptController.requests_request _ _ _).trans (Bool.or_false _)

/-- While time passes, the timer's interrupt is requested exactly if the timer requests
it. -/
theorem requests_timer_elapse (cycles : Nat) :
    (board.elapse cycles).1.interrupts.requests .timer =
      (board.interrupts.requests .timer ||
        (board.timer.changes 0 (List.replicate cycles .tick)).any Timer.Change.raised) := by
  refine (requests_timer_receiveAll _ _).trans ?_
  simp only [runTimer, board.timer.run_eq 0 cycles, List.countP_eq_zero]
  split
  next none =>
    have silent : (board.timer.changes 0 (List.replicate cycles .tick)).any
        Timer.Change.raised = false := by
      simpa [List.any_eq_false] using none
    rw [silent, Bool.or_false]
  next some =>
    have raised : (board.timer.changes 0 (List.replicate cycles .tick)).any
        Timer.Change.raised = true := by
      simpa [List.any_eq_true] using some
    rw [raised, InterruptController.requests_request]
    rfl

theorem requests_timer_writeDevice {register : DeviceRegister} (value : Byte)
    (other : register ≠ .interruptRequest) :
    (board.writeDevice register value).1.interrupts.requests .timer =
      board.interrupts.requests .timer := by
  cases register with
  | interruptRequest => exact absurd rfl other
  | lcd register => exact requests_timer_receiveAll _ _
  | bootOverlay =>
      simp only [writeDevice, unmapBoot]
      split <;> rfl
  | _ => rfl

/-- A write requests the timer's interrupt at most through the request register. -/
theorem requests_timer_write {address : Word} (value : Byte)
    (other : address ≠ AddressSpace.requestAddress) :
    (board.write address value).1.interrupts.requests .timer =
      board.interrupts.requests .timer := by
  rw [write]
  cases region : Region.ofAddress address with
  | device index =>
      refine board.requests_timer_writeDevice value fun request => other ?_
      have place : index.val = 0x0F := by
        clear region
        revert index
        decide
      apply UInt16.toNat_inj.mp
      rw [Region.ofAddress_eq_device_iff.mp region, place]
      rfl
  | _ => rfl

theorem requests_timer_setButton (button : Button) (pressed : Bool) :
    (board.setButton button pressed).interrupts.requests .timer =
      board.interrupts.requests .timer := by
  simp only [setButton]
  split
  · exact (InterruptController.requests_request _ _ _).trans (Bool.or_false _)
  · rfl

end Board

/-! ## Runs -/

namespace Console

variable (console : Console)

/-- What a run does to the timer. -/
def timerRun (moves : List Move) : List Timer.Action :=
  (console.accesses moves).flatMap (·.flatMap timerActions)

theorem timer_move (move : Move) :
    (console.move move).board.timer =
      console.board.timer.performAll ((console.moveAccesses move).flatMap timerActions) := by
  cases move with
  | step =>
      have told := (Board.keeps_told console.board.timer).step console.recorded rfl
      rw [Board.Told, console.bus_recorded_step] at told
      exact told
  | setButton | loadRam | noticeFrame => rfl

/-- The timer's actions lead where the run leads. -/
theorem timer_moveAll (moves : List Move) :
    (console.moveAll moves).board.timer =
      console.board.timer.performAll (console.timerRun moves) := by
  induction moves generalizing console with
  | nil => rfl
  | cons move moves ih =>
      rw [moveAll, ih, timer_move, ← Timer.performAll_append]
      rfl

theorem timer_powerOn (config : Config) (bootRom : Option BootRom)
    (cartridge : Option Cartridge) :
    (powerOn config bootRom cartridge).board.timer = {} ∨
      (powerOn config bootRom cartridge).board.timer = .afterBoot := by
  simp only [powerOn]
  split
  · exact .inl rfl
  · exact .inr rfl

theorem settled_powerOn (config : Config) (bootRom : Option BootRom)
    (cartridge : Option Cartridge) :
    (powerOn config bootRom cartridge).board.timer.Settled ∧
      (powerOn config bootRom cartridge).board.timer.reloadDelay = 0 := by
  rcases timer_powerOn config bootRom cartridge with initial | initial
  · exact initial ▸ ⟨.of_idle (by decide) rfl rfl, rfl⟩
  · exact initial ▸ ⟨.of_idle (by decide) rfl rfl, rfl⟩

/-- No timer interrupt is lost, duplicated or invented. In every run of a console that
has just been switched on, the changes of its timer are those that the accesses of the
processor make, and their history is faithful. What the timer requests is requested in
the interrupt controller; and nothing else requests it there, unless the processor
writes the request register. -/
theorem timer_interrupts_faithful (config : Config) (bootRom : Option BootRom)
    (cartridge : Option Cartridge) (moves : List Move) :
    let start := powerOn config bootRom cartridge
    (start.moveAll moves).board.timer =
        start.board.timer.performAll (start.timerRun moves) ∧
      Timer.Faithful (start.board.timer.changes 0 (start.timerRun moves)) ∧
      (∀ (board : Board) (cycles : Nat),
        (board.elapse cycles).1.timer =
            board.timer.performAll (List.replicate cycles .tick) ∧
          (board.elapse cycles).1.interrupts.requests .timer =
            (board.interrupts.requests .timer ||
              (board.timer.changes 0 (List.replicate cycles .tick)).any
                Timer.Change.raised)) ∧
      (∀ (board : Board) (address : Word) (value : Byte),
        address ≠ AddressSpace.requestAddress →
          (board.write address value).1.interrupts.requests .timer =
            board.interrupts.requests .timer) ∧
      (∀ (board : Board) (interrupt : Interrupt),
        (Bus.acknowledge board interrupt).1.interrupts.requests .timer =
          (board.interrupts.requests .timer && decide (interrupt ≠ .timer))) ∧
      ∀ (board : Board) (button : Button) (pressed : Bool),
        (board.setButton button pressed).interrupts.requests .timer =
          board.interrupts.requests .timer := by
  intro start
  obtain ⟨settled, idle⟩ := settled_powerOn config bootRom cartridge
  refine ⟨start.timer_moveAll moves, ?_, ?_, ?_, ?_, ?_⟩
  · obtain ⟨bouts, same⟩ := exists_bouts (start.footprint_accesses moves)
    rw [timerRun, same]
    exact settled.faithful idle 0 bouts
  · intro board cycles
    exact ⟨board.timer_elapse cycles, board.requests_timer_elapse cycles⟩
  · intro board address value other
    exact board.requests_timer_write value other
  · intro board interrupt
    exact board.interrupts.requests_acknowledge interrupt .timer
  · intro board button pressed
    exact board.requests_timer_setButton button pressed

/-- A cartridge whose program fills the timer register and starts the timer. -/
def timerStarter : Image :=
  [(0x100, 0x3E), (0x101, 0xFF), (0x102, 0xE0), (0x103, 0x05), (0x104, 0x3E), (0x105, 0x05),
    (0x106, 0xE0), (0x107, 0x07)].foldl (fun image cell => image.setIfInBounds cell.1 cell.2)
      (Array.replicate 0x150 0)

/-- In four steps of that program the timer register wraps, and its reload takes place;
and a write of the timer register requests nothing by itself. -/
theorem timer_interrupts_faithful_of_overflow :
    let start := powerOn { ramFill := .zeros } none
      (some (Cartridge.ofImage timerStarter (by decide +kernel)))
    (∃ earlier wrap later,
      start.board.timer.changes 0 (start.timerRun (List.replicate 4 .step)) =
          earlier ++ wrap :: later ∧
        wrap.Wraps ∧ Timer.Completes (wrap.date + 4) later ∧
          ¬ Timer.Abandons (wrap.date + 4) later) ∧
      (0xFF05 : Word) ≠ AddressSpace.requestAddress ∧
        (start.board.write 0xFF05 0).1.interrupts.requests .timer =
          start.board.interrupts.requests .timer := by
  intro start
  obtain ⟨-, faithful, -, writes, -⟩ := timer_interrupts_faithful { ramFill := .zeros } none
    (some (Cartridge.ofImage timerStarter (by decide +kernel))) (List.replicate 4 .step)
  have raises : (start.board.timer.changes 0
      (start.timerRun (List.replicate 4 .step))).any Timer.Change.raised = true := by
    decide +kernel
  obtain ⟨raise, made, raised⟩ := List.any_eq_true.mp raises
  obtain ⟨earlier, later, split⟩ := List.append_of_mem made
  obtain ⟨before, wrap, waiting, rfl, wraps, due, -⟩ := faithful.caused _ _ _ split raised
  have whole : start.board.timer.changes 0 (start.timerRun (List.replicate 4 .step)) =
      before ++ wrap :: (waiting ++ raise :: later) := split.trans (by simp)
  refine ⟨⟨before, wrap, _, whole, wraps, ?_⟩, by decide, writes _ _ _ (by decide)⟩
  rcases faithful.settles _ _ _ whole wraps with awaits | completes | ⟨abandons, -⟩
  · have quiet := (awaits raise (by simp)).1
    exact nomatch quiet.silent.symm.trans raised
  · exact completes
  · obtain ⟨-, -, -, -, -, -, silent⟩ := abandons
    exact absurd due (Nat.ne_of_gt (silent raise (by simp) raised))

end Console

end GameBoy
