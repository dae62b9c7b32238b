import GameBoy.Proofs.Console.Rendering

/-!
# The clocks between steps

A step ends with whole machine cycles, whatever it has written before. So between steps the
counter of the timer and the dot of the line are at the start of a machine cycle, and the
reload of the timer is seen in three states only: none is under way, one was scheduled in
this very cycle, or one has just taken place.
-/

namespace GameBoy

namespace Timer

/-- Between instructions the reload delay has its full length, if any of it is left. -/
theorem Settled.delay_cases {timer : Timer} (settled : timer.Settled) :
    timer.reloadDelay = 0 ∨ timer.reloadDelay = 4 := by
  have delay := settled.delay
  rwa [settled.whole] at delay

/-- Between instructions the window after a reload has its full length, if any of it is
left. -/
theorem Settled.window_cases {timer : Timer} (settled : timer.Settled) :
    timer.reloadWindow = 0 ∨ timer.reloadWindow = 4 := by
  have window := settled.window
  rwa [settled.whole] at window

end Timer

namespace Console

/-- A move leaves the timer as it has to be between instructions. -/
theorem settled_move {console : Console} (settled : console.board.timer.Settled) (move : Move) :
    (console.move move).board.timer.Settled := by
  obtain ⟨bout, same⟩ := exists_bout (console.footprint_moveAccesses move)
  rw [timer_move, same]
  exact settled.bout bout

/-- As long as a console stays on, its timer is as it has to be between instructions. -/
theorem SwitchedOn.settled {config : Config} {console : Console}
    (on : SwitchedOn config console) : console.board.timer.Settled := by
  refine on.keeps (·.board.timer.Settled) ?_ ?_
  · exact fun bootRom cartridge => (settled_powerOn config bootRom cartridge).1
  · exact fun before move settled => settled_move settled move

/-- Between steps all clocks are at the start of a machine cycle. Whatever the host asks for
and whatever the program does, the counter of the timer and the dot of the line are multiples
of four. The reload delay and the window after a reload are empty or whole, and never both
whole. While a reload is scheduled the timer register is zero, and in the window it holds the
modulo; in both the watched signal is low. -/
theorem aligned_after (config : Config) (history : List Operation) :
    let board := (after config history).board
    let timer := board.timer
    (4 ∣ timer.counter.toNat ∧ 4 ∣ board.lcd.dot) ∧
      (timer.reloadDelay = 0 ∨ timer.reloadDelay = 4) ∧
      (timer.reloadWindow = 0 ∨ timer.reloadWindow = 4) ∧
      ¬ (timer.reloadDelay = 4 ∧ timer.reloadWindow = 4) ∧
      (timer.reloadDelay = 4 → timer.count = 0 ∧ timer.input = false) ∧
      (timer.reloadWindow = 4 → timer.count = timer.modulo ∧ timer.input = false) := by
  intro board timer
  have settled : timer.Settled := (switchedOn_after config history).settled
  have whole : 4 ∣ timer.counter.toNat := Nat.dvd_of_mod_eq_zero settled.whole
  refine ⟨⟨whole, four_dvd_dot_after config history⟩, settled.delay_cases, settled.window_cases,
    ?_, ?_, ?_⟩
  · rintro ⟨scheduled, windowed⟩
    rcases settled.apart with idle | shut
    · exact nomatch scheduled.symm.trans idle
    · exact nomatch windowed.symm.trans shut
  · intro scheduled
    have waiting : timer.reloadDelay ≠ 0 := by rw [scheduled]; decide
    exact ⟨settled.wrapped waiting, (settled.delayCalm waiting).1⟩
  · intro windowed
    have opened : timer.reloadWindow ≠ 0 := by rw [windowed]; decide
    exact ⟨settled.loaded opened, settled.windowCalm opened⟩

/-- A program that starts the timer two edges before its wrap, and some steps of it. -/
def overflowing (steps : Nat) : List Operation :=
  .loadCartridge (Cartridge.shortestImage [(0x100, 0x3E), (0x101, 0xFE), (0x102, 0xE0),
    (0x103, 0x05), (0x104, 0x3E), (0x105, 0x05), (0x106, 0xE0), (0x107, 0x07)]) ::
      List.replicate steps .step

/-- After seven steps of that program a reload is scheduled, and after eight it has taken
place. -/
theorem aligned_after_of_overflow :
    let scheduled := (after { ramFill := .zeros } (overflowing 7)).board.timer
    let reloaded := (after { ramFill := .zeros } (overflowing 8)).board.timer
    (scheduled.reloadDelay = 4 ∧ scheduled.count = 0 ∧ scheduled.input = false) ∧
      reloaded.reloadWindow = 4 ∧ reloaded.count = reloaded.modulo ∧ reloaded.input = false := by
  obtain ⟨-, -, -, -, waits, -⟩ := aligned_after { ramFill := .zeros } (overflowing 7)
  obtain ⟨-, -, -, -, -, takes⟩ := aligned_after { ramFill := .zeros } (overflowing 8)
  have delay : (after { ramFill := .zeros } (overflowing 7)).board.timer.reloadDelay = 4 := by
    decide +kernel
  have window : (after { ramFill := .zeros } (overflowing 8)).board.timer.reloadWindow = 4 := by
    decide +kernel
  exact ⟨⟨delay, waits delay⟩, window, takes window⟩

end Console

end GameBoy
