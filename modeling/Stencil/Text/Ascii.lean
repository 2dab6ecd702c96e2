/-!
# Names

Identifiers are written with the letters and digits of ASCII and the underscore, and are told
apart without regard to the case of ASCII letters. `fold` is the spelling under which two
names are the same name.
-/

namespace Stencil.Text

def isNameChar (c : Char) : Bool := c.isAlphanum || c == '_'

/-- A non-empty run of identifier characters. -/
def isIdentifier (s : String) : Bool := !s.isEmpty && s.toList.all isNameChar

/-- A name with its ASCII letters in upper case; other letters stay as they are. -/
def fold (s : String) : List Char := s.toList.map Char.toUpper

/-- Equality of names up to the case of ASCII letters. -/
def sameName (a b : String) : Bool := fold a == fold b

theorem sameName_iff {a b : String} : sameName a b = true ↔ fold a = fold b := by
  simp [sameName]

theorem sameName_self (a : String) : sameName a a = true := sameName_iff.2 rfl

end Stencil.Text
