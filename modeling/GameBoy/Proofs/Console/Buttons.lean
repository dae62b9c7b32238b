import GameBoy.Proofs.Console.Changes
import GameBoy.Proofs.Console.TimerInterrupts
import GameBoy.Proofs.Word.Bits
import Mathlib.Data.Fin.VecNotation
import Mathlib.Data.List.Induction

/-!
# The joypad tells the last events

All that the joypad knows is the value that was last written to it and, of every button, whether
its last event was a press. The four lines of its register follow from that. A press requests
the interrupt unless the button was down already; the groups that are selected play no part in
it, and neither does what happens to other buttons.
-/

namespace GameBoy

open Cpu Memory

namespace Button

/-- The directions in the order of the lines. -/
def direction : Fin 4 → Button := ![.right, .left, .up, .down]

/-- The actions in the order of the lines. -/
def action : Fin 4 → Button := ![.a, .b, .select, .start]

/-- Within a group every button has a line of its own. -/
theorem line_ne {first second : Button} (different : first ≠ second)
    (group : first.isAction = second.isAction) : first.line ≠ second.line := by
  revert different group
  cases first <;> cases second <;> decide

end Button

namespace Joypad

/-! ## Inputs -/

/-- What reaches the joypad: an event of a button, or a write of the register. -/
inductive Input where
  | button (button : Button) (pressed : Bool)
  | select (value : Byte)

/-- The joypad after an input. -/
def input (joypad : Joypad) : Input → Joypad
  | .button button pressed => (joypad.setButton button pressed).1
  | .select value => joypad.write value

/-- Whether an input presses a button, if it is an event of that button. -/
def Input.pressed? (button : Button) : Input → Option Bool
  | .button other pressed => if other = button then some pressed else none
  | .select _ => none

/-- The value that an input writes, if it does. -/
def Input.selected? : Input → Option Byte
  | .button _ _ => none
  | .select value => some value

/-- Whether the last event of a button was a press. -/
def held (inputs : List Input) (button : Button) : Bool :=
  (inputs.filterMap (Input.pressed? button)).getLast? == some true

/-- The value last written, or the one that stands there at power-on. -/
def selected (inputs : List Input) : Byte :=
  (inputs.filterMap Input.selected?).getLast?.getD 0x30

theorem held_concat_button (inputs : List Input) (other button : Button) (pressed : Bool) :
    held (inputs ++ [.button button pressed]) other =
      if button = other then pressed else held inputs other := by
  by_cases own : button = other
  · cases pressed <;> simp [held, Input.pressed?, own]
  · simp [held, Input.pressed?, own]

theorem held_concat_select (inputs : List Input) (button : Button) (value : Byte) :
    held (inputs ++ [.select value]) button = held inputs button := by
  simp [held, Input.pressed?]

theorem selected_concat_button (inputs : List Input) (button : Button) (pressed : Bool) :
    selected (inputs ++ [.button button pressed]) = selected inputs := by
  simp [selected, Input.selected?]

theorem selected_concat_select (inputs : List Input) (value : Byte) :
    selected (inputs ++ [.select value]) = value := by
  simp [selected, Input.selected?]

/-! ## Buttons -/

variable (joypad : Joypad)

theorem setButton_eq (button : Button) (pressed : Bool) :
    joypad.setButton button pressed =
      (joypad.modifyGroup button (·.assign button.line pressed),
        pressed && !joypad.isPressed button) := by
  cases pressed <;> rfl

/-- An event of a button leaves the others as they are. -/
theorem isPressed_setButton (button other : Button) (pressed : Bool) :
    (joypad.setButton button pressed).1.isPressed other =
      if button = other then pressed else joypad.isPressed other := by
  rw [setButton_eq]
  by_cases group : button.isAction = other.isAction
  · have line : (other.line : Nat) = button.line ↔ button = other := by
      refine ⟨fun same => ?_, fun same => same ▸ rfl⟩
      by_contra different
      exact Button.line_ne different group (Fin.ext same).symm
    have bit (lines : Byte) : (lines.assign button.line pressed).bit other.line =
        if button = other then pressed else lines.bit other.line := by
      simp only [Byte.bit_assign _ _ _ other.line.isLt, line]
    cases action : other.isAction <;>
      simp only [isPressed, modifyGroup, group, action, if_true, Bool.false_eq_true, if_false,
        bit]
  · have different : button ≠ other := fun same => group (same ▸ rfl)
    rw [if_neg different]
    cases own : button.isAction <;> cases action : other.isAction <;>
      simp_all [isPressed, modifyGroup]

theorem modifyGroup_comm {first second : Button} {change other : Byte → Byte}
    (alike : first.isAction = second.isAction → ∀ lines, other (change lines) = change (other lines)) :
    (joypad.modifyGroup first change).modifyGroup second other =
      (joypad.modifyGroup second other).modifyGroup first change := by
  cases own : first.isAction <;> cases action : second.isAction <;>
    simp_all [modifyGroup]

/-- Events of different buttons may change places. -/
theorem setButton_comm {first second : Button} (different : first ≠ second)
    (pressed other : Bool) :
    ((joypad.setButton first pressed).1.setButton second other).1 =
        ((joypad.setButton second other).1.setButton first pressed).1 ∧
      ((joypad.setButton first pressed).1.setButton second other).2 =
        (joypad.setButton second other).2 := by
  have kept := joypad.isPressed_setButton first second pressed
  rw [if_neg different] at kept
  constructor
  · simp only [setButton_eq]
    exact joypad.modifyGroup_comm fun group lines =>
      lines.assign_comm (Button.line_ne different group) pressed other
  · rw [setButton_eq, setButton_eq joypad second, kept]

/-! ## The register -/

/-- Nothing is kept of a value that was written but the bits that select. -/
def Narrow (joypad : Joypad) : Prop := joypad.select &&& selectBits = joypad.select

/-- The joypad knows the last events, and no more. -/
structure Told (joypad : Joypad) (inputs : List Input) : Prop where
  select : joypad.select = selected inputs &&& selectBits
  pressed : ∀ button, joypad.isPressed button = held inputs button

variable {joypad} {inputs : List Input}

theorem told_powerOn : Told {} [] := ⟨rfl, fun button => by cases button <;> rfl⟩

theorem Told.input (told : joypad.Told inputs) (next : Input) :
    (joypad.input next).Told (inputs ++ [next]) := by
  cases next with
  | button button pressed =>
      constructor
      · rw [selected_concat_button, ← told.select, Joypad.input, setButton_eq, modifyGroup]
        split <;> rfl
      · intro other
        rw [held_concat_button, ← told.pressed]
        exact joypad.isPressed_setButton button other pressed
  | select value =>
      constructor
      · rw [selected_concat_select]
        rfl
      · intro button
        rw [held_concat_select, ← told.pressed]
        rfl

/-- A value of the register that tells the last events: the upper bits are set, the next two are
those last written, and a line is low for a button that is held in a group that is selected. -/
structure Reflects (inputs : List Input) (value : Byte) : Prop where
  upper : value &&& 0xF0 = 0xC0 ||| (selected inputs &&& 0x30)
  lines : ∀ line : Fin 4, value.bit line = false ↔
    (selected inputs).bit 4 = false ∧ held inputs (Button.direction line) = true ∨
      (selected inputs).bit 5 = false ∧ held inputs (Button.action line) = true

/-- A line is high unless a group pulls it low. -/
theorem bit_read (joypad : Joypad) (narrow : joypad.Narrow) (line : Fin 4) :
    joypad.read.bit line =
      !(!joypad.select.bit 4 && joypad.directions.bit line ||
        !joypad.select.bit 5 && joypad.actions.bit line) := by
  have inside : (line : Nat) < 8 := Nat.lt_trans line.isLt (by decide)
  have masks : ∀ line : Fin 4, Byte.bit 0xC0 line = false ∧ Byte.bit selectBits line = false ∧
      Byte.bit 0x0F line = true ∧ Byte.bit 0 line = false := by decide
  obtain ⟨fixed, above, within, blank⟩ := masks line
  have unselected : joypad.select.bit line = false := by
    rw [← narrow, Byte.bit_and, above, Bool.and_false]
  have group (off : Bool) (lines : Byte) :
      Byte.bit (if off = true then 0 else lines) line = (!off && lines.bit line) := by
    cases off <;> simp [blank]
  simp only [read, Byte.bit_or, Byte.bit_and, Byte.bit_not _ inside, fixed, unselected, within,
    group, Bool.false_or, Bool.true_and]

theorem Told.narrow (told : joypad.Told inputs) : joypad.Narrow := by
  rw [Narrow, told.select, UInt8.and_assoc, UInt8.and_self]

theorem Told.reflects (told : joypad.Told inputs) : Reflects inputs joypad.read := by
  constructor
  · have bits : ∀ (place : Fin 8) (chosen line : Bool),
        (((Byte.bit 0xC0 place || chosen && Byte.bit 0x30 place) ||
            Byte.bit 0x0F place && line) && Byte.bit 0xF0 place) =
          (Byte.bit 0xC0 place || chosen && Byte.bit 0x30 place) := by
      decide
    refine Byte.ext_bit fun place inside => ?_
    simp only [read, told.select, selectBits, Byte.bit_and, Byte.bit_or]
    exact bits ⟨place, inside⟩ _ _
  · intro line
    have four : joypad.select.bit 4 = (selected inputs).bit 4 := by
      rw [told.select, Byte.bit_and]
      exact Bool.and_true _
    have five : joypad.select.bit 5 = (selected inputs).bit 5 := by
      rw [told.select, Byte.bit_and]
      exact Bool.and_true _
    have directions : joypad.directions.bit line = held inputs (Button.direction line) := by
      rw [← told.pressed]
      match line with
      | 0 | 1 | 2 | 3 => rfl
    have actions : joypad.actions.bit line = held inputs (Button.action line) := by
      rw [← told.pressed]
      match line with
      | 0 | 1 | 2 | 3 => rfl
    rw [joypad.bit_read told.narrow, four, five, directions, actions, Bool.not_eq_false',
      Bool.or_eq_true, Bool.and_eq_true, Bool.and_eq_true, Bool.not_eq_true', Bool.not_eq_true']

end Joypad

/-! ## The board -/

namespace Memory

theorem DeviceRegister.ofIndex_eq_joypad_iff (index : Fin 0x80) :
    ofIndex index = .joypad ↔ index = 0 := by
  revert index
  decide

end Memory

namespace Board

/-- The input of the joypad that a change is, if it is one. -/
def Change.input? : Change → Option Joypad.Input
  | .access (.write address value) => if address = 0xFF00 then some (.select value) else none
  | .setButton button pressed => some (.button button pressed)
  | .access (.elapse _) | .acknowledge _ | .loadRam _ | .noticeFrame => none

variable (board : Board)

theorem region_joypad : Region.ofAddress 0xFF00 = .device 0 :=
  Region.ofAddress_eq_device_iff.mpr rfl

theorem read_joypad : board.read 0xFF00 = board.joypad.read := by
  rw [read, region_joypad]
  rfl

theorem write_joypad (value : Byte) :
    board.write 0xFF00 value = ({ board with joypad := board.joypad.write value }, []) := by
  rw [write, region_joypad]
  rfl

/-- The register of the joypad has one address. -/
theorem joypad_write {address : Word} (other : address ≠ 0xFF00) (value : Byte) :
    (board.write address value).1.joypad = board.joypad := by
  rw [write]
  cases region : Region.ofAddress address with
  | device index =>
      simp only [writeRegion]
      cases named : DeviceRegister.ofIndex index with
      | joypad =>
          rw [DeviceRegister.ofIndex_eq_joypad_iff] at named
          subst named
          exact absurd (UInt16.toNat_inj.mp (Region.ofAddress_eq_device_iff.mp region)) other
      | bootOverlay =>
          simp only [writeDevice, unmapBoot]
          split <;> rfl
      | _ => rfl
  | _ => rfl

/-- The joypad sees its inputs alone. -/
theorem joypad_change (change : Change) :
    (board.change change).joypad = change.input?.elim board.joypad board.joypad.input := by
  cases change with
  | access access =>
      cases access with
      | elapse cycles => rfl
      | write address value =>
          by_cases own : address = 0xFF00
          · subst own
            exact congrArg (·.1.joypad) (board.write_joypad value)
          · rw [Change.input?, if_neg own]
            exact board.joypad_write own value
  | acknowledge | setButton | loadRam | noticeFrame => rfl

theorem told_changeAll {board : Board} (fresh : board.joypad = {}) (changes : List Change) :
    (board.changeAll changes).joypad.Told (changes.filterMap Change.input?) := by
  induction changes using List.reverseRecOn with
  | nil => exact fresh ▸ Joypad.told_powerOn
  | append_singleton changes change told =>
      have seen := (board.changeAll changes).joypad_change change
      rw [changeAll_append, List.filterMap_append]
      change ((board.changeAll changes).change change).joypad.Told _
      rw [seen]
      cases found : change.input? with
      | none => simpa [found] using told
      | some input => simpa [found] using told.input input

theorem interrupts_setButton (button : Button) (pressed : Bool) :
    (board.setButton button pressed).interrupts =
      if (board.joypad.setButton button pressed).2 then board.interrupts.request .joypad
      else board.interrupts := rfl

/-- Events of different buttons may change places, with the requests that they make. -/
theorem setButton_comm {first second : Button} (different : first ≠ second)
    (pressed other : Bool) :
    (board.setButton first pressed).setButton second other =
      (board.setButton second other).setButton first pressed := by
  obtain ⟨joypad, late⟩ := board.joypad.setButton_comm different pressed other
  obtain ⟨-, early⟩ := board.joypad.setButton_comm different.symm other pressed
  simp only [setButton, joypad, late, early]
  congr 1
  cases (board.joypad.setButton first pressed).2 <;>
    cases (board.joypad.setButton second other).2 <;> rfl

end Board

namespace Console

theorem joypad_powerOn (config : Config) (bootRom : Option BootRom)
    (cartridge : Option Cartridge) : (powerOn config bootRom cartridge).board.joypad = {} := by
  simp only [powerOn]
  split <;> rfl

/-- The joypad reflects the last event of every button. Let any changes happen to the board of a
console that was just switched on, with events of buttons and writes of the register of the
joypad among them. Then the register reads as `0xC0` with the two selecting bits that were
written last, or both if there were none; and a line reads low exactly if the directions are
selected and the last event of the direction on that line was a press, or so with the actions.
The next event of a button requests the interrupt of the joypad exactly if it is a press and the
last event of that button, if any, was none, and does nothing else to the interrupts; a write of
the register does nothing to them at all. Events of different buttons may change places, the
requests included. The register reads so after every run of the console, by the inputs that the
host gives and the program writes in it. -/
theorem joypad_reflects_events (config : Config) (bootRom : Option BootRom)
    (cartridge : Option Cartridge) (changes : List Board.Change) :
    let start := powerOn config bootRom cartridge
    let board := start.board.changeAll changes
    let inputs := changes.filterMap Board.Change.input?
    Joypad.Reflects inputs (board.read 0xFF00) ∧
      (∀ (button : Button) (pressed : Bool),
        let fresh := pressed && !Joypad.held inputs button
        (board.joypad.setButton button pressed).2 = fresh ∧
          (board.setButton button pressed).interrupts =
            if fresh then board.interrupts.request .joypad else board.interrupts) ∧
      (∀ value : Byte, (board.write 0xFF00 value).1.interrupts = board.interrupts) ∧
      (∀ (first second : Button) (pressed other : Bool), first ≠ second →
        (board.setButton first pressed).setButton second other =
          (board.setButton second other).setButton first pressed) ∧
      ∀ moves : List Move,
        Joypad.Reflects ((start.changesAll moves).filterMap Board.Change.input?)
          ((start.moveAll moves).peek 0xFF00) := by
  intro start board inputs
  have fresh : start.board.joypad = {} := joypad_powerOn config bootRom cartridge
  have told : board.joypad.Told inputs := Board.told_changeAll fresh changes
  have reads (changes : List Board.Change) :
      Joypad.Reflects (changes.filterMap Board.Change.input?)
        ((start.board.changeAll changes).read 0xFF00) := by
    rw [Board.read_joypad]
    exact (Board.told_changeAll fresh changes).reflects
  refine ⟨reads changes, fun button pressed => ?_, fun value => ?_, ?_, fun moves => ?_⟩
  · have requested : (board.joypad.setButton button pressed).2 =
        (pressed && !Joypad.held inputs button) := by
      rw [Joypad.setButton_eq, told.pressed]
    exact ⟨requested, requested ▸ board.interrupts_setButton button pressed⟩
  · rw [board.write_joypad]
  · intro first second pressed other different
    exact board.setButton_comm different pressed other
  · rw [peek, board_moveAll]
    exact reads _

/-- Two directions are held, with an action between them that is let go again, while a program
selects both groups. -/
def chord : List Board.Change :=
  [.setButton .a true, .access (.write 0xFF00 0x0F), .setButton .up true, .access (.elapse 4),
    .setButton .a false, .setButton .right true]

/-- The two directions are read; of the next presses that of the action requests the interrupt,
and it may change places with the release of a direction. -/
theorem joypad_reflects_events_of_chord :
    let board := (powerOn {} none none).board.changeAll chord
    board.read 0xFF00 &&& 0xF0 = 0xC0 ∧
      (∀ line : Fin 4, (board.read 0xFF00).bit line = false ↔ line = 0 ∨ line = 2) ∧
      (board.joypad.setButton .a true).2 = true ∧ (board.joypad.setButton .up true).2 = false ∧
      Button.a ≠ Button.up ∧
        (board.setButton .a true).setButton .up false =
          (board.setButton .up false).setButton .a true := by
  intro board
  obtain ⟨⟨upper, lines⟩, events, -, comm, -⟩ := joypad_reflects_events {} none none chord
  have different : Button.a ≠ Button.up := by decide
  refine ⟨upper.trans (by decide), fun line => (lines line).trans ?_, (events .a true).1.trans ?_,
    (events .up true).1.trans ?_, different, comm _ _ _ _ different⟩
  · revert line
    decide
  · decide
  · decide

end Console

end GameBoy
