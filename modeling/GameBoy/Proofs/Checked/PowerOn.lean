import GameBoy.Console
import GameBoy.Proofs.Checked.Number

/-!
# Power-on with checked operations

When a console is switched on, its memories are filled from a generator that shifts its
state. Where no boot program runs, the sound registers take the values that one would
leave, each written at its own address. Neither can fail.
-/

namespace GameBoy

open Checked

namespace Memory

namespace Noise

/-- The generator's next state. -/
def checkedNext (state : UInt32) : Option UInt32 := do
  let moved ← shifted? 32 13 (state <<< 13)
  let state := state ^^^ moved
  let moved ← shifted? 32 17 (state >>> 17)
  let state := state ^^^ moved
  let moved ← shifted? 32 5 (state <<< 5)
  pure (state ^^^ moved)

/-- Overwrite the first cells of a memory; the result also holds the last state. -/
def checkedOverwriteFirst {count : Nat} (cells : Vector Byte count) (state : UInt32) :
    (done : Nat) → done ≤ count → Option (Vector Byte count × UInt32)
  | 0, _ => pure (cells, state)
  | done + 1, inside => do
    let (cells, state) ← checkedOverwriteFirst cells state done (Nat.le_of_succ_le inside)
    let state ← checkedNext state
    pure (cells.set done state.toUInt8, state)

/-- Overwrite all cells of a memory. -/
def checkedOverwrite {count : Nat} (cells : Vector Byte count) (state : UInt32) :
    Option (Vector Byte count × UInt32) :=
  checkedOverwriteFirst cells state count (Nat.le_refl _)

theorem checkedNext_eq (state : UInt32) : checkedNext state = some (next state) := rfl

theorem checkedOverwriteFirst_eq {count : Nat} (cells : Vector Byte count) (state : UInt32)
    {done : Nat} (inside : done ≤ count) :
    checkedOverwriteFirst cells state done inside =
      some (overwriteFirst cells state done inside) := by
  induction done with
  | zero => rfl
  | succ done ih =>
      simp only [checkedOverwriteFirst, ih, checkedNext_eq, Option.bind_eq_bind,
        Option.bind_some]
      rfl

theorem checkedOverwrite_eq {count : Nat} (cells : Vector Byte count) (state : UInt32) :
    checkedOverwrite cells state = some (overwrite cells state) :=
  checkedOverwriteFirst_eq cells state _

end Noise

/-- Fill work RAM and high RAM as they are at power-on. -/
def checkedRefill (fill : Fill) (workRam : Vector Byte 0x2000) (highRam : Vector Byte 0x7F) :
    Option (Vector Byte 0x2000 × Vector Byte 0x7F) :=
  match fill with
  | .noise => do
    let (workRam, state) ← Noise.checkedOverwrite workRam Noise.seed
    let (highRam, _) ← Noise.checkedOverwrite highRam state
    pure (workRam, highRam)
  | .zeros => pure (Vector.replicate 0x2000 0, Vector.replicate 0x7F 0)

theorem checkedRefill_eq (fill : Fill) (workRam : Vector Byte 0x2000)
    (highRam : Vector Byte 0x7F) :
    checkedRefill fill workRam highRam = some (fill.refill workRam highRam) := by
  unfold checkedRefill Fill.refill
  rw [Noise.checkedOverwrite_eq]
  -- The cells stay a name before the fill is known: nothing below may compute them.
  generalize Noise.overwrite workRam Noise.seed = filled
  obtain ⟨workRam, state⟩ := filled
  cases fill with
  | noise =>
      simp only [Noise.checkedOverwrite_eq, Option.bind_eq_bind, Option.bind_some]
      rfl
  | zeros => rfl

end Memory

namespace Board

/-- The sound registers that a boot program sets, and their values. -/
def soundTable : List (Word × Byte) :=
  [(0xFF10, 0x80), (0xFF11, 0xBF), (0xFF12, 0xF3), (0xFF13, 0xFF), (0xFF14, 0xBF),
    (0xFF16, 0x3F), (0xFF17, 0x00), (0xFF18, 0xFF), (0xFF19, 0xBF), (0xFF1A, 0x7F),
    (0xFF1B, 0xFF), (0xFF1C, 0x9F), (0xFF1D, 0xFF), (0xFF1E, 0xBF), (0xFF20, 0xFF),
    (0xFF21, 0x00), (0xFF22, 0x00), (0xFF23, 0xBF), (0xFF24, 0x77), (0xFF25, 0xF3),
    (0xFF26, 0xF1)]

/-- Write one of the sound registers at its address. -/
def checkedSetSound (audio : Vector Byte Memory.audioSize) (address : Word) (value : Byte) :
    Option (Vector Byte Memory.audioSize) := do
  let index ← placeFrom? 0xFF00 0x80 address.toNat
  let offset ← difference? index.val 0x10
  replace? audio offset value

/-- The address of a sound register. -/
def soundAddress (place : Fin Memory.audioSize) : Word := .ofNat (0xFF10 + place.val)

theorem soundTable_eq :
    soundTable = bootSound.map fun entry => (soundAddress entry.1, entry.2) := by
  decide

theorem checkedSetSound_eq (audio : Vector Byte Memory.audioSize)
    (place : Fin Memory.audioSize) (value : Byte) :
    checkedSetSound audio (soundAddress place) value = some (Memory.put audio place value) := by
  have inside : place.val < 0x30 := place.isLt
  have address : (soundAddress place).toNat = 0xFF10 + place.val := by
    rw [soundAddress, UInt16.toNat_ofNat']
    omega
  have index : placeFrom? 0xFF00 0x80 (soundAddress place).toNat =
      some ⟨0x10 + place.val, by omega⟩ := by
    rw [address, placeFrom?_of_lt (by omega) (by omega), Option.some_inj, Fin.mk.injEq]
    omega
  have offset : difference? (0x10 + place.val) 0x10 = some place.val := by
    rw [difference?_of_le (Nat.le_add_right _ _), Nat.add_sub_cancel_left]
  rw [checkedSetSound, index, Option.bind_eq_bind, Option.bind_some, offset]
  exact replace?_of_lt place.isLt

/-- The sound registers are set one by one, each at its address. -/
theorem foldlM_soundTable (audio : Vector Byte Memory.audioSize) :
    soundTable.foldlM (fun audio entry => checkedSetSound audio entry.1 entry.2) audio =
      some (bootSound.foldl (fun audio (place, value) => Memory.put audio place value)
        audio) := by
  rw [soundTable_eq, List.foldlM_map]
  refine foldlM_of_forall _ ?_ audio bootSound
  rintro audio ⟨place, value⟩
  exact checkedSetSound_eq audio place value

/-- Start every device afresh and fill the memories again. -/
def checkedRestart (board : Board) (fill : Memory.Fill) : Option Board := do
  let (workRam, highRam) ← Memory.checkedRefill fill board.workRam board.highRam
  pure { board with
    timer := {}
    lcd := {}
    interrupts := {}
    joypad := {}
    serialData := 0
    serialControl := 0
    audio := Vector.replicate Memory.audioSize 0
    transferPage := 0xFF
    workRam
    highRam }

/-- Restart at power-on. -/
def checkedEnterBoot (board : Board) (fill : Memory.Fill) : Option Board := do
  let board ← board.checkedRestart fill
  pure { board with bootMapped := board.bootRom.isSome }

/-- Restart where a boot program would have handed over. -/
def checkedSkipBoot (board : Board) (fill : Memory.Fill) : Option Board := do
  let board ← board.checkedRestart fill
  let audio ← soundTable.foldlM (fun audio entry => checkedSetSound audio entry.1 entry.2)
    board.audio
  pure { board with
    bootMapped := false
    timer := .afterBoot
    lcd := board.lcd.handOver
    interrupts := (board.interrupts.writeRequested 0x01).writeEnabled 0x00
    serialControl := serialUnusedBits
    audio }

variable (board : Board) (fill : Memory.Fill)

theorem checkedRestart_eq : board.checkedRestart fill = some (board.restart fill) := by
  rw [checkedRestart, Memory.checkedRefill_eq]
  rfl

theorem checkedEnterBoot_eq : board.checkedEnterBoot fill = some (board.enterBoot fill) := by
  rw [checkedEnterBoot, checkedRestart_eq]
  rfl

theorem checkedSkipBoot_eq : board.checkedSkipBoot fill = some (board.skipBoot fill) := by
  rw [checkedSkipBoot, checkedRestart_eq, Option.bind_eq_bind, Option.bind_some,
    foldlM_soundTable]
  rfl

end Board

namespace Console

/-- Switch a console off and on again. -/
def checkedReset (console : Console) : Option Console :=
  let fill := console.config.ramFill
  if console.board.bootRom.isSome then do
    let board ← console.board.checkedEnterBoot fill
    pure { console with cpu := .powerOn, board }
  else do
    let board ← console.board.checkedSkipBoot fill
    pure { console with cpu := .afterBoot, board }

/-- A console without images. -/
def checkedNew (config : Config) : Option Console :=
  checkedReset { config, cpu := .powerOn, board := {} }

theorem checkedReset_eq (console : Console) : console.checkedReset = some console.reset := by
  rw [checkedReset, reset, Board.checkedEnterBoot_eq, Board.checkedSkipBoot_eq]
  split <;> rfl

theorem checkedNew_eq (config : Config) : checkedNew config = some (new config) :=
  checkedReset_eq _

end Console

end GameBoy
