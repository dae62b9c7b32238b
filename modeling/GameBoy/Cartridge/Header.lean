import GameBoy.Text.Blank
import GameBoy.Text.Utf8
import GameBoy.Word

/-!
# Cartridge headers

The bytes `0x134` to `0x14F` of a cartridge image describe the cartridge: its
title, the circuit that banks its memory, and the size of its external RAM. A
checksum at `0x14D` guards the description.
-/

namespace GameBoy

/-- The content of a ROM image. -/
abbrev Image := Array Byte

namespace Cartridge

/-- The banking circuit that a cartridge-type byte names. -/
inductive MapperKind where
  | romOnly
  | mbc1
  | mbc3
  | mbc5
  /-- Any type without a circuit here; it runs with fixed banks. -/
  | unsupported (cartridgeType : Byte)
  deriving DecidableEq, Repr

namespace MapperKind

/-- The circuit behind a cartridge type. -/
def ofType (cartridgeType : Byte) : MapperKind :=
  if cartridgeType = 0x00 ∨ cartridgeType = 0x08 ∨ cartridgeType = 0x09 then .romOnly
  else if 0x01 ≤ cartridgeType ∧ cartridgeType ≤ 0x03 then .mbc1
  else if 0x0F ≤ cartridgeType ∧ cartridgeType ≤ 0x13 then .mbc3
  else if 0x19 ≤ cartridgeType ∧ cartridgeType ≤ 0x1E then .mbc5
  else .unsupported cartridgeType

/-- The circuit's name in messages. -/
def name : MapperKind → String
  | .romOnly => "RomOnly"
  | .mbc1 => "Mbc1"
  | .mbc3 => "Mbc3"
  | .mbc5 => "Mbc5"
  | .unsupported cartridgeType => s!"Unsupported({cartridgeType.toNat})"

end MapperKind

/-- The description at the start of a cartridge image. -/
structure Header where
  title : String
  cartridgeType : Byte
  romSizeCode : Byte
  ramSizeCode : Byte
  checksum : Byte
  globalChecksum : Word
  deriving DecidableEq, Repr

/-- Size of the smallest image that holds a whole header. -/
def headerEnd : Nat := 0x150

/-- Size of one external RAM bank. -/
def ramBankSize : Nat := 0x2000

namespace Header

/-- The banking circuit of the cartridge. -/
def mapper (header : Header) : MapperKind := .ofType header.cartridgeType

/-- Number of external RAM banks. A part smaller than a bank counts as one. -/
def ramBanks (header : Header) : Nat :=
  if header.ramSizeCode = 0x01 ∨ header.ramSizeCode = 0x02 then 1
  else if header.ramSizeCode = 0x03 then 4
  else if header.ramSizeCode = 0x04 then 16
  else if header.ramSizeCode = 0x05 then 8
  else 0

/-- Size of the external RAM in bytes. -/
def ramSize (header : Header) : Nat := header.ramBanks * ramBankSize

/-- The title field up to its first zero byte, without blanks at its end. -/
def titleOf (field : List Byte) : String :=
  String.ofList (Text.trimEnd (Text.decodeUtf8 (field.takeWhile (· != 0))))

/-- The header of an image that is long enough to hold one. -/
def ofImage (image : Image) (long : headerEnd ≤ image.size) : Header :=
  have : 0x150 ≤ image.size := long
  { title := titleOf (image.extract 0x134 0x144).toList
    cartridgeType := image[0x147]
    romSizeCode := image[0x148]
    ramSizeCode := image[0x149]
    checksum := image[0x14D]
    globalChecksum := Word.ofBytes image[0x14E] image[0x14F] }

end Header

/-- The checksum that a header should carry: every byte from `0x134` to `0x14C`
is subtracted in turn, and one more for each. An image that ends before
`0x14D` has checksum zero. -/
def headerChecksum (image : Image) : Byte :=
  if 0x14D ≤ image.size then
    (image.extract 0x134 0x14D).foldl (fun sum byte => sum - byte - 1) 0
  else 0

end Cartridge

end GameBoy
