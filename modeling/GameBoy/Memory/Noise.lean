import GameBoy.Word

/-!
# Memory after power-on

Memory chips hold noise when they are switched on. A shift-register generator with
a fixed seed stands for it, so that runs can be repeated while no program can
rely on zeros.
-/

namespace GameBoy.Memory

/-- What work RAM and high RAM hold at power-on. -/
inductive Fill where
  | noise
  | zeros
  deriving DecidableEq, Repr

namespace Noise

/-- Seed of the generator. -/
def seed : UInt32 := 0xC0DE1234

/-- The generator's next state: three shifts, each combined with what it moves. -/
def next (state : UInt32) : UInt32 :=
  let state := state ^^^ (state <<< 13)
  let state := state ^^^ (state >>> 17)
  state ^^^ (state <<< 5)

/-- Overwrite the first cells of a memory, each with the low part of the next state; the
result also holds the last state. -/
def overwriteFirst {count : Nat} (cells : Vector Byte count) (state : UInt32) :
    (done : Nat) → done ≤ count → Vector Byte count × UInt32
  | 0, _ => (cells, state)
  | done + 1, inside =>
    let (cells, state) := overwriteFirst cells state done (Nat.le_of_succ_le inside)
    let state := next state
    (cells.set done state.toUInt8, state)

/-- Overwrite all cells of a memory. -/
def overwrite {count : Nat} (cells : Vector Byte count) (state : UInt32) :
    Vector Byte count × UInt32 :=
  overwriteFirst cells state count (Nat.le_refl _)

end Noise

/-- Fill work RAM and high RAM as they are at power-on, in this order. -/
def Fill.refill (fill : Fill) (workRam : Vector Byte 0x2000) (highRam : Vector Byte 0x7F) :
    Vector Byte 0x2000 × Vector Byte 0x7F :=
  match fill with
  | .noise =>
    let (workRam, state) := Noise.overwrite workRam Noise.seed
    (workRam, (Noise.overwrite highRam state).1)
  | .zeros => (Vector.replicate 0x2000 0, Vector.replicate 0x7F 0)

end GameBoy.Memory
