import GameBoy.Word

/-!
# Reading text that may not be UTF-8

A byte string is read as UTF-8. Where the bytes stop being a well-formed
sequence, the longest part that could still have begun one is replaced by a
single U+FFFD, and reading resumes with the byte that broke it. The well-formed
sequences are those of the Unicode Standard, table 3-7.
-/

namespace GameBoy.Text

/-- A sequence that has begun: the bits read so far, how many continuation
bytes are missing, and the range that the next one must lie in. -/
structure Pending where
  bits : Nat
  missing : Nat
  least : Byte
  greatest : Byte

/-- What a byte means at the start of a sequence. -/
inductive Lead where
  | ascii (character : Char)
  | multibyte (pending : Pending)
  | illFormed

/-- The first byte decides the length, and for some lengths narrows the second
byte so that no overlong form, surrogate or value above U+10FFFF is read. -/
def Lead.ofByte (byte : Byte) : Lead :=
  if byte < 0x80 then .ascii (Char.ofNat byte.toNat)
  else if byte < 0xC2 then .illFormed
  else if byte < 0xE0 then .multibyte ⟨byte.toNat % 0x20, 1, 0x80, 0xBF⟩
  else if byte = 0xE0 then .multibyte ⟨0, 2, 0xA0, 0xBF⟩
  else if byte = 0xED then .multibyte ⟨0xD, 2, 0x80, 0x9F⟩
  else if byte < 0xF0 then .multibyte ⟨byte.toNat % 0x10, 2, 0x80, 0xBF⟩
  else if byte = 0xF0 then .multibyte ⟨0, 3, 0x90, 0xBF⟩
  else if byte < 0xF4 then .multibyte ⟨byte.toNat % 0x08, 3, 0x80, 0xBF⟩
  else if byte = 0xF4 then .multibyte ⟨4, 3, 0x80, 0x8F⟩
  else .illFormed

/-- Stands for every part that is not well formed. -/
def replacement : Char := '\uFFFD'

/-- Characters completed by one byte at the start of a sequence, and the
sequence that it begins. -/
def beginSequence (byte : Byte) : List Char × Option Pending :=
  match Lead.ofByte byte with
  | .ascii character => ([character], none)
  | .multibyte pending => ([], some pending)
  | .illFormed => ([replacement], none)

/-- Characters completed by one more byte. A byte outside the range of the
pending sequence ends it with a replacement and begins the next one. -/
def continueSequence (pending : Pending) (byte : Byte) : List Char × Option Pending :=
  if pending.least ≤ byte ∧ byte ≤ pending.greatest then
    let bits := pending.bits * 0x40 + byte.toNat % 0x40
    if pending.missing ≤ 1 then ([Char.ofNat bits], none)
    else ([], some ⟨bits, pending.missing - 1, 0x80, 0xBF⟩)
  else
    let (characters, next) := beginSequence byte
    (replacement :: characters, next)

/-- The characters of a byte list, read behind an optional pending sequence. -/
def decodeFrom : Option Pending → List Byte → List Char
  | none, [] => []
  | some _, [] => [replacement]
  | none, byte :: bytes =>
      let (characters, next) := beginSequence byte
      characters ++ decodeFrom next bytes
  | some pending, byte :: bytes =>
      let (characters, next) := continueSequence pending byte
      characters ++ decodeFrom next bytes

/-- The text of a byte list. -/
def decodeUtf8 (bytes : List Byte) : List Char := decodeFrom none bytes

end GameBoy.Text
