import GameBoy.Cartridge.Mapper
import GameBoy.Journal
import GameBoy.LoadError

/-!
# Cartridges

A cartridge is an immutable image, external RAM and a banking circuit. Bank
numbers wrap at the number of banks there are; an address beyond the end of the
image or of the RAM reads as `0xFF`.
-/

namespace GameBoy

/-- A cartridge in the machine. -/
structure Cartridge where
  header : Cartridge.Header
  rom : Image
  ram : Array Byte
  mapper : Cartridge.Mapper

namespace Cartridge

/-- What reading memory that is not there gives. -/
def openBus : Byte := 0xFF

/-- Number of whole ROM banks, at least one. -/
def romBanks (cartridge : Cartridge) : Nat := max (cartridge.rom.size / romBankSize) 1

/-- Number of RAM banks. -/
def ramBanks (cartridge : Cartridge) : Nat := cartridge.ram.size / ramBankSize

/-- Position in the image of the byte behind an address. -/
def romIndex (cartridge : Cartridge) (address : RomAddress) : Nat :=
  cartridge.mapper.romBank address % cartridge.romBanks * romBankSize +
    address.val % romBankSize

/-- Read the ROM window. -/
def readRom (cartridge : Cartridge) (address : RomAddress) : Byte :=
  cartridge.rom[cartridge.romIndex address]?.getD openBus

/-- Write the ROM window: only the registers of the circuit are reached. -/
def writeRom (cartridge : Cartridge) (address : RomAddress) (value : Byte) : Cartridge :=
  { cartridge with mapper := cartridge.mapper.write address value }

/-- Position in the RAM of the cell behind an address, if one is connected. -/
def ramIndex? (cartridge : Cartridge) (address : RamAddress) : Option Nat :=
  match cartridge.mapper.ramBank? with
  | none => none
  | some bank =>
    if cartridge.ramBanks = 0 then none
    else some (bank % cartridge.ramBanks * ramBankSize + address.val)

/-- Read the RAM window. -/
def readRam (cartridge : Cartridge) (address : RamAddress) : Byte :=
  match cartridge.ramIndex? address with
  | none => openBus
  | some index => cartridge.ram[index]?.getD openBus

/-- Write the RAM window. -/
def writeRam (cartridge : Cartridge) (address : RamAddress) (value : Byte) : Cartridge :=
  match cartridge.ramIndex? address with
  | none => cartridge
  | some index => { cartridge with ram := cartridge.ram.setIfInBounds index value }

/-- Replace the start of the RAM. Bytes beyond its end are dropped, and cells
beyond the end of the data keep their value. -/
def loadRam (cartridge : Cartridge) (data : Array Byte) : Cartridge :=
  let size := cartridge.ram.size
  { cartridge with ram := data.extract 0 size ++ cartridge.ram.extract data.size size }

/-- What loading an image reports: a wrong checksum, a circuit that is not
supported, and what was loaded. -/
def loadEvents (header : Header) (image : Image) : List Event :=
  let computed := headerChecksum image
  let mismatch := if computed = header.checksum then []
    else [Event.checksumMismatch header.checksum computed]
  let unsupported := match header.mapper with
    | .unsupported cartridgeType => [Event.unsupportedMapper cartridgeType]
    | _ => []
  mismatch ++ unsupported ++ [.cartridgeLoaded header image.size]

/-- The cartridge of an image, with fresh RAM and its circuit at power-on. -/
def ofImage (image : Image) (long : headerEnd ≤ image.size) : Cartridge :=
  let header := Header.ofImage image long
  { header
    rom := image
    ram := Array.replicate header.ramSize 0xFF
    mapper := .ofHeader header }

/-- Load an image that holds at least a whole header. -/
def load (image : Image) : Except LoadError (Cartridge × List Event) :=
  if image.isEmpty then .error .emptyCartridge
  else if long : headerEnd ≤ image.size then
    let cartridge := ofImage image long
    .ok (cartridge, loadEvents cartridge.header image)
  else .error (.shortCartridge image.size)

@[simp] theorem size_ram_writeRom (cartridge : Cartridge) (address : RomAddress)
    (value : Byte) : (cartridge.writeRom address value).ram.size = cartridge.ram.size := rfl

@[simp] theorem size_ram_writeRam (cartridge : Cartridge) (address : RamAddress)
    (value : Byte) : (cartridge.writeRam address value).ram.size = cartridge.ram.size := by
  unfold writeRam
  split <;> simp

@[simp] theorem size_ram_loadRam (cartridge : Cartridge) (data : Array Byte) :
    (cartridge.loadRam data).ram.size = cartridge.ram.size := by
  simp only [loadRam, Array.size_append, Array.size_extract]
  omega

end Cartridge

end GameBoy
