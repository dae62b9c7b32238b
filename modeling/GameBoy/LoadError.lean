/-!
# Rejected images

The reasons for which an image is not accepted, and their wording.
-/

namespace GameBoy

/-- Why an image was rejected. -/
inductive LoadError where
  /-- A boot program does not have exactly the size of the boot ROM. -/
  | bootRomSize (size : Nat)
  /-- A cartridge image holds nothing. -/
  | emptyCartridge
  /-- A cartridge image ends inside its header. -/
  | shortCartridge (size : Nat)
  deriving DecidableEq, Repr

namespace LoadError

/-- The reason in words. -/
def message : LoadError → String
  | bootRomSize size => s!"invalid boot ROM image: expected 256 bytes, got {size}"
  | emptyCartridge => "invalid cartridge image: image is empty"
  | shortCartridge size =>
    s!"invalid cartridge: {size} bytes is shorter than the 0x150-byte header"

end LoadError

end GameBoy
