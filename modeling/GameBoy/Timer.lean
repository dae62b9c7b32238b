import GameBoy.Word

/-!
# The timer

A 16-bit counter advances once per clock cycle; the divider register shows its
upper byte. The timer register counts falling edges of one bit of the counter,
gated by an enable bit. Because the gated bit is what is watched, resetting the
counter or changing the gate can also make it fall. When the timer register
wraps it stays zero for four cycles; then it is reloaded from the modulo
register and an interrupt is requested.
-/

namespace GameBoy

/-- The divider, the three timer registers and the state of a reload. -/
structure Timer where
  /-- Clock cycles modulo 65536. -/
  counter : Word := 0
  /-- The timer register. -/
  count : Byte := 0
  /-- The value that is loaded after an overflow. -/
  modulo : Byte := 0
  /-- Enable bit and choice of the watched bit. -/
  control : Byte := 0
  /-- Cycles until the reload that an overflow has scheduled, or zero. -/
  reloadDelay : Nat := 0
  /-- Cycles left of the machine cycle that follows a reload. -/
  reloadWindow : Nat := 0
  deriving DecidableEq, Repr

namespace Timer

/-- Cycles from an overflow to its reload, and the length of the window after
it. -/
def reloadCycles : Nat := 4

/-- Bits of the control register that exist. -/
def controlBits : Byte := 0x07

/-- The timer as a boot program leaves it: the divider shows `0xAB`. -/
def afterBoot : Timer := { counter := 0xABCC }

/-- Whether falling edges are counted. -/
def running (timer : Timer) : Bool := timer.control.bit 2

/-- Position of the watched bit of the counter. -/
def watchedBit (timer : Timer) : Nat :=
  match timer.control.toNat % 4 with
  | 0 => 9
  | 1 => 3
  | 2 => 5
  | _ => 7

/-- The signal whose falling edges are counted. -/
def input (timer : Timer) : Bool := timer.running && timer.counter.toNat.testBit timer.watchedBit

/-- Count one edge. A wrap to zero schedules a reload. -/
def increment (timer : Timer) : Timer :=
  if timer.count = 0xFF then { timer with count := 0, reloadDelay := reloadCycles }
  else { timer with count := timer.count + 1 }

/-- The timer after a change, where the edge that the change caused is counted. -/
def countEdge (before : Bool) (after : Timer) : Timer :=
  if before && !after.input then after.increment else after

/-- Bring a scheduled reload one cycle nearer. The result tells whether it
happened and requests an interrupt. -/
def progressReload (timer : Timer) : Timer × Bool :=
  if timer.reloadDelay = 1 then
    ({ timer with
        count := timer.modulo
        reloadDelay := 0
        reloadWindow := reloadCycles }, true)
  else
    ({ timer with
        reloadDelay := timer.reloadDelay - 1
        reloadWindow := timer.reloadWindow - 1 }, false)

/-- One clock cycle; the result tells whether an interrupt is requested. -/
def tick (timer : Timer) : Timer × Bool :=
  let (timer, raised) := timer.progressReload
  (countEdge timer.input { timer with counter := timer.counter + 1 }, raised)

/-- A number of clock cycles; the result holds the number of interrupt
requests. -/
def run (timer : Timer) : Nat → Timer × Nat
  | 0 => (timer, 0)
  | cycles + 1 =>
    let (timer, raised) := timer.tick
    let (timer, requests) := timer.run cycles
    (timer, raised.toNat + requests)

/-- The divider register. -/
def divider (timer : Timer) : Byte := timer.counter.high

/-- The control register as the processor reads it: unused bits are set. -/
def readControl (timer : Timer) : Byte := timer.control ||| ~~~controlBits

/-- Writing the divider resets the counter, whatever the value. -/
def resetDivider (timer : Timer) : Timer :=
  countEdge timer.input { timer with counter := 0 }

/-- Writing the timer register cancels a scheduled reload. In the window after a
reload the write is lost. -/
def writeCount (timer : Timer) (value : Byte) : Timer :=
  if 0 < timer.reloadWindow then timer
  else { timer with count := value, reloadDelay := 0 }

/-- In the window after a reload the new modulo also reaches the timer register. -/
def writeModulo (timer : Timer) (value : Byte) : Timer :=
  if 0 < timer.reloadWindow then { timer with modulo := value, count := value }
  else { timer with modulo := value }

/-- Change the gate. -/
def writeControl (timer : Timer) (value : Byte) : Timer :=
  countEdge timer.input { timer with control := value &&& controlBits }

@[simp] theorem counter_increment (timer : Timer) :
    timer.increment.counter = timer.counter := by
  unfold increment
  split <;> rfl

@[simp] theorem counter_countEdge (before : Bool) (after : Timer) :
    (countEdge before after).counter = after.counter := by
  unfold countEdge
  split <;> simp

@[simp] theorem counter_tick (timer : Timer) : timer.tick.1.counter = timer.counter + 1 := by
  simp only [tick, progressReload]
  split <;> simp

end Timer

end GameBoy
