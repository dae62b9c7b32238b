import GameBoy.Proofs.Console.Access

/-!
# Changes of a board

The board of a console that stays on changes in small steps: the processor writes a byte, lets
time pass or acknowledges an interrupt, and the host presses a button, loads the RAM of the
cartridge or notices a frame. Every run of a console is a list of such changes, whose beginnings
are the boards on the way, those within an instruction included.
-/

namespace GameBoy

open Cpu

namespace Board

/-- What can happen to a board at once. -/
inductive Change where
  | access (access : Access)
  | acknowledge (interrupt : Interrupt)
  | setButton (button : Button) (pressed : Bool)
  | loadRam (data : Array Byte)
  | noticeFrame

/-- The board after a change. -/
def change (board : Board) : Change → Board
  | .access access => board.access access
  | .acknowledge interrupt =>
    { board with interrupts := board.interrupts.acknowledge interrupt }
  | .setButton button pressed => board.setButton button pressed
  | .loadRam data => board.modifyCartridge (·.loadRam data)
  | .noticeFrame => { board with lcd := board.lcd.clearReady }

/-- The board after some changes. -/
def changeAll (board : Board) (changes : List Change) : Board := changes.foldl change board

theorem changeAll_append (board : Board) (earlier later : List Change) :
    board.changeAll (earlier ++ later) = (board.changeAll earlier).changeAll later :=
  List.foldl_append

/-- What every change keeps holds after some changes. -/
theorem changeAll_keeps (Holds : Board → Prop)
    (keeps : ∀ board change, Holds board → Holds (board.change change)) {board : Board}
    (holds : Holds board) (changes : List Change) : Holds (board.changeAll changes) := by
  induction changes generalizing board with
  | nil => exact holds
  | cons change changes ih => exact ih (keeps board change holds)

/-- The change that goes before the accesses of a step. -/
def acknowledgement : Activity → List Change
  | .dispatched interrupt => [.acknowledge interrupt]
  | _ => []

theorem changeAll_acknowledgement (board : Board) (activity : Activity) :
    board.changeAll (acknowledgement activity) = board.acknowledged activity := by
  cases activity <;> rfl

theorem changeAll_access (board : Board) (accesses : List Access) :
    board.changeAll (accesses.map .access) = board.accessAll accesses :=
  List.foldl_map

end Board

namespace Console

/-- The changes of the board that a move makes. -/
def changes (console : Console) : Move → List Board.Change
  | .step =>
    Board.acknowledgement console.activity ++ (console.moveAccesses .step).map .access
  | .setButton button pressed => [.setButton button pressed]
  | .loadRam data => [.loadRam data]
  | .noticeFrame => [.noticeFrame]

/-- The changes of the board that a run makes. -/
def changesAll (console : Console) : List Move → List Board.Change
  | [] => []
  | move :: moves => console.changes move ++ (console.move move).changesAll moves

theorem board_move (console : Console) (move : Move) :
    (console.move move).board = console.board.changeAll (console.changes move) := by
  cases move with
  | step =>
      rw [changes, Board.changeAll_append, Board.changeAll_acknowledgement,
        Board.changeAll_access]
      exact console.board_step
  | setButton | loadRam | noticeFrame => rfl

/-- The changes of a run lead where the run leads. -/
theorem board_moveAll (console : Console) (moves : List Move) :
    (console.moveAll moves).board = console.board.changeAll (console.changesAll moves) := by
  induction moves generalizing console with
  | nil => rfl
  | cons move moves ih =>
      rw [moveAll, ih, board_move, ← Board.changeAll_append]
      rfl

end Console

end GameBoy
