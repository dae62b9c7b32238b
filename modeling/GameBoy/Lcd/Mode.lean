import GameBoy.Word

/-!
# Modes of the LCD controller

A visible line passes through OAM scan, pixel transfer and horizontal blank;
the lines below the picture are vertical blank.
-/

namespace GameBoy.Lcd

/-- What the controller is doing at a dot. -/
inductive Mode where
  | hblank
  | vblank
  | oamScan
  | transfer
  deriving DecidableEq, Repr

namespace Mode

/-- The two low bits of the status register. -/
def code : Mode → Byte
  | .hblank => 0
  | .vblank => 1
  | .oamScan => 2
  | .transfer => 3

/-- The mode's name in messages. -/
def name : Mode → String
  | .hblank => "HBlank"
  | .vblank => "VBlank"
  | .oamScan => "OamScan"
  | .transfer => "Transfer"

end Mode

end GameBoy.Lcd
