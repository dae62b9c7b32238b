import GameBoy.Word

/-!
# The joypad

Eight buttons in two groups share four lines. Two select bits, active when
clear, choose the groups; a line reads low while a pressed button of a chosen
group is connected to it. Pressing a button that was not pressed requests an
interrupt.
-/

namespace GameBoy

/-- The buttons: four directions, then four actions. -/
inductive Button where
  | right
  | left
  | up
  | down
  | a
  | b
  | select
  | start
  deriving DecidableEq, Repr

namespace Button

/-- All buttons, in the order of the lines of each group. -/
def all : List Button := [.right, .left, .up, .down, .a, .b, .select, .start]

/-- Whether the button belongs to the actions. -/
def isAction : Button → Bool
  | .right | .left | .up | .down => false
  | .a | .b | .select | .start => true

/-- The line that the button pulls low. -/
def line : Button → Fin 8
  | .right | .a => 0
  | .left | .b => 1
  | .up | .select => 2
  | .down | .start => 3

/-- The button at a position of `Button.all`. -/
def ofIndex? (index : Nat) : Option Button := all[index]?

end Button

/-- The two select bits and the pressed buttons of each group, one bit a line. -/
structure Joypad where
  select : Byte := 0x30
  actions : Byte := 0
  directions : Byte := 0
  deriving DecidableEq, Repr

namespace Joypad

/-- Bits of the register that select a group. -/
def selectBits : Byte := 0x30

/-- The register as the processor reads it; its two upper bits are set. -/
def read (joypad : Joypad) : Byte :=
  let directions := if joypad.select.bit 4 then 0 else joypad.directions
  let actions := if joypad.select.bit 5 then 0 else joypad.actions
  0xC0 ||| joypad.select ||| (0x0F &&& ~~~(directions ||| actions))

/-- Choose groups. -/
def write (joypad : Joypad) (value : Byte) : Joypad :=
  { joypad with select := value &&& selectBits }

/-- Whether a button is held down. -/
def isPressed (joypad : Joypad) (button : Button) : Bool :=
  (if button.isAction then joypad.actions else joypad.directions).bit button.line

/-- Change the lines of the group that a button belongs to. -/
def modifyGroup (joypad : Joypad) (button : Button) (change : Byte → Byte) : Joypad :=
  if button.isAction then { joypad with actions := change joypad.actions }
  else { joypad with directions := change joypad.directions }

/-- Press or release a button; the result tells whether an interrupt is
requested. -/
def setButton (joypad : Joypad) (button : Button) (pressed : Bool) : Joypad × Bool :=
  if pressed then
    (joypad.modifyGroup button (·.set button.line), !joypad.isPressed button)
  else (joypad.modifyGroup button (·.clear button.line), false)

end Joypad

end GameBoy
