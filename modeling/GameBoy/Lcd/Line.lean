import GameBoy.Lcd.Sprite

/-!
# Drawing a line

A line is drawn at once, from the registers and memory of that moment. Each pixel
takes its color number from the window where that covers it, else from the
background; the frontmost sprite that is not transparent there replaces it,
unless that sprite is behind the background and the number is not zero.
-/

namespace GameBoy.Lcd

/-- Greatest window position that puts a column of the window on the screen. -/
def windowXLimit : Nat := 166

/-- Whether the window is drawn on the current line. -/
def windowVisible (lcd : Lcd) : Bool :=
  lcd.backgroundEnabled && lcd.windowEnabled && lcd.windowY.toNat ≤ lcd.line &&
    lcd.windowX.toNat ≤ windowXLimit

/-- The background's color number at a column of the current line. -/
def backgroundColor (lcd : Lcd) (x : Nat) : Color :=
  lcd.mapColor lcd.backgroundMapHigh (lcd.scrollX + UInt8.ofNat x)
    (lcd.scrollY + UInt8.ofNat lcd.line)

/-- The window's color number at a column of the current line; the window starts
seven columns left of its position. -/
def windowColor (lcd : Lcd) (x : Nat) : Color :=
  lcd.mapColor lcd.windowMapHigh (UInt8.ofNat (x + 7 - lcd.windowX.toNat)) lcd.windowLine

/-- The color number below the sprites. -/
def layerColor (lcd : Lcd) (x : Nat) : Color :=
  if !lcd.backgroundEnabled then 0
  else if lcd.windowVisible && lcd.windowX.toNat ≤ x + 7 then lcd.windowColor x
  else lcd.backgroundColor x

/-- The palette of a sprite. -/
def spritePalette (lcd : Lcd) (sprite : Sprite) : Byte :=
  if sprite.secondPalette then lcd.spritePalette1 else lcd.spritePalette0

/-- The frontmost sprite that is not transparent at a column, with its color
number. -/
def spriteAt? (lcd : Lcd) (order : List Sprite) (x : Nat) : Option (Sprite × Color) :=
  order.findSome? fun sprite =>
    let color := sprite.color lcd.vram lcd.lineSpritesTall lcd.line x
    if color = 0 then none else some (sprite, color)

/-- The shade at a column, given the sprites front to back. -/
def pixelShade (lcd : Lcd) (order : List Sprite) (x : Nat) : Shade :=
  let below := lcd.layerColor x
  match lcd.spriteAt? order x with
  | none => paletteShade lcd.backgroundPalette below
  | some (sprite, color) =>
    if sprite.behindBackground && below != 0 then paletteShade lcd.backgroundPalette below
    else paletteShade (lcd.spritePalette sprite) color

/-- The pixels of the current line. -/
def lineRow (lcd : Lcd) : Row :=
  let order := if lcd.spritesEnabled then lcd.spriteOrder else []
  Vector.ofFn fun x => lcd.pixelShade order x.val

/-- Draw the current line into the frame under way, and count the window's rows. -/
def drawLine (lcd : Lcd) : Lcd :=
  let row := lcd.lineRow
  let windowLine := if lcd.windowVisible then lcd.windowLine + 1 else lcd.windowLine
  let drawn :=
    if visible : lcd.line < screenHeight then lcd.drawn.setRow ⟨lcd.line, visible⟩ row
    else lcd.drawn
  { lcd with drawn, windowLine }

end GameBoy.Lcd
