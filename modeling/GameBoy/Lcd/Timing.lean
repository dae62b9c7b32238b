import GameBoy.Lcd.Line

/-!
# The controller's clock

Every visible line takes 456 dots: 80 of scanning the sprite table, 172 of pixel
transfer, the rest horizontal blank. The line is drawn when its transfer ends.
Ten lines of vertical blank follow the picture; at their end the frame under way
becomes the one shown. The interrupt line is the disjunction of the chosen
conditions, and only its rising edge is reported.
-/

namespace GameBoy

namespace Lcd

/-- What the controller reports beyond its registers. -/
inductive Signal where
  | switchedOff (line : Nat)
  | switchedOn
  | statEdge (line : Nat) (mode : Mode)
  | verticalBlank
  deriving DecidableEq, Repr

/-- Whether the chosen interrupt conditions include a mode. -/
def selects (lcd : Lcd) : Mode → Bool
  | .hblank => lcd.statSelect.bit 3
  | .vblank => lcd.statSelect.bit 4
  | .oamScan => lcd.statSelect.bit 5
  | .transfer => false

/-- Whether the current line is the one that the program asked for. -/
def coincides (lcd : Lcd) : Bool := lcd.line == lcd.lineCompare.toNat

/-- The disjunction of the chosen interrupt conditions. -/
def statCondition (lcd : Lcd) : Bool :=
  lcd.enabled && ((lcd.statSelect.bit 6 && lcd.coincides) || lcd.selects lcd.mode)

/-- Bring the interrupt line up to date and report a rising edge. -/
def updateStat (lcd : Lcd) : Lcd × List Signal :=
  let condition := lcd.statCondition
  let signals :=
    if condition && !lcd.statLine then [Signal.statEdge lcd.line lcd.mode] else []
  ({ lcd with statLine := condition }, signals)

/-- Enter a mode. -/
def enter (lcd : Lcd) (mode : Mode) : Lcd × List Signal :=
  { lcd with mode }.updateStat

/-- Begin the next line, of the picture or of the vertical blank. -/
def nextLine (lcd : Lcd) : Lcd × List Signal :=
  let lcd := { lcd with dot := 0, line := lcd.line + 1 }
  if lcd.line = screenHeight then
    let (lcd, signals) := lcd.enter .vblank
    (lcd, signals ++ [.verticalBlank])
  else lcd.enter .oamScan

/-- Show the frame under way and begin the next one. -/
def nextFrame (lcd : Lcd) : Lcd × List Signal :=
  { lcd with
    dot := 0
    line := 0
    windowLine := 0
    shown := lcd.drawn
    drawn := lcd.shown
    frameReady := true }.enter .oamScan

/-- Begin the next line of the vertical blank, or the next frame after the last. -/
def nextBlankLine (lcd : Lcd) : Lcd × List Signal :=
  if lcd.line + 1 = frameEnd then lcd.nextFrame
  else { lcd with dot := 0, line := lcd.line + 1 }.updateStat

/-- One dot. -/
def tick (lcd : Lcd) : Lcd × List Signal :=
  if lcd.enabled then
    let lcd := { lcd with dot := lcd.dot + 1 }
    match lcd.mode with
    | .oamScan => if lcd.dot = scanEnd then lcd.scanSprites.enter .transfer else (lcd, [])
    | .transfer => if lcd.dot = transferEnd then lcd.drawLine.enter .hblank else (lcd, [])
    | .hblank => if lcd.dot = lineEnd then lcd.nextLine else (lcd, [])
    | .vblank => if lcd.dot = lineEnd then lcd.nextBlankLine else (lcd, [])
  else (lcd, [])

/-- A number of dots. -/
def run (lcd : Lcd) : Nat → Lcd × List Signal
  | 0 => (lcd, [])
  | dots + 1 =>
    let (lcd, signals) := lcd.tick
    let (lcd, later) := lcd.run dots
    (lcd, signals ++ later)

end Lcd

end GameBoy
