/-!
# Text from any bytes

Reading bytes as UTF-8 where not all of them are. What is well-formed is read; of the rest,
every piece that begins like a character, as far as it does, is read as one replacement
character, and so is every byte that begins none.
-/

namespace Stencil.Text

/-- The character that stands for bytes that cannot be read. -/
def replacement : Char := '\uFFFD'

/-- A character of which some bytes are still missing. -/
structure Unfinished where
  /-- The bits that have been read. -/
  bits : Nat
  /-- The number of bytes that are missing. -/
  missing : Nat
  /-- The least next byte. -/
  low : Nat
  /-- The greatest next byte. -/
  high : Nat

/-- What a byte begins: a character, or a character that goes on. The bounds on the second byte
    leave out long spellings, surrogates, and what is past the last character. -/
def beginWith (b : Nat) : List Char × Option Unfinished :=
  if b < 0x80 then ([Char.ofNat b], none)
  else if b < 0xC2 then ([replacement], none)
  else if b < 0xE0 then ([], some ⟨b - 0xC0, 1, 0x80, 0xBF⟩)
  else if b < 0xF0 then
    ([], some ⟨b - 0xE0, 2, if b == 0xE0 then 0xA0 else 0x80, if b == 0xED then 0x9F else 0xBF⟩)
  else if b < 0xF5 then
    ([], some ⟨b - 0xF0, 3, if b == 0xF0 then 0x90 else 0x80, if b == 0xF4 then 0x8F else 0xBF⟩)
  else ([replacement], none)

/-- Reads bytes, behind a character that goes on if there is one. -/
def lossyFrom : Option Unfinished → List UInt8 → List Char
  | none, [] => []
  | some _, [] => [replacement]
  | none, b :: rest =>
    let (read, next) := beginWith b.toNat
    read ++ lossyFrom next rest
  | some u, b :: rest =>
    if u.low ≤ b.toNat && b.toNat ≤ u.high then
      let bits := 64 * u.bits + (b.toNat - 0x80)
      if u.missing == 1 then Char.ofNat bits :: lossyFrom none rest
      else lossyFrom (some ⟨bits, u.missing - 1, 0x80, 0xBF⟩) rest
    else
      let (read, next) := beginWith b.toNat
      replacement :: (read ++ lossyFrom next rest)

/-- The text that bytes stand for, as well as they can be read. -/
def lossy (b : ByteArray) : String := String.ofList (lossyFrom none b.data.toList)

end Stencil.Text
