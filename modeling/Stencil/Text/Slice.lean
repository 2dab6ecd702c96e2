import Stencil.Text.Search

/-!
# Parts of a text by offset

An offset counts the bytes of UTF-8 in front of a place. There is no place within a character.
-/

namespace Stencil.Text

/-- What lies before and behind an offset. -/
def splitAtByte? (offset : Nat) (s : List Char) : Option (List Char × List Char) :=
  match s with
  | [] => if offset = 0 then some ([], []) else none
  | c :: r =>
    if offset = 0 then some ([], c :: r)
    else if offset < c.utf8Size then none
    else (splitAtByte? (offset - c.utf8Size) r).map fun (before, after) => (c :: before, after)

/-- The part of a text from one offset up to another. -/
def slice? (start stop : Nat) (s : List Char) : Option (List Char) := do
  let (before, _) ← splitAtByte? stop s
  let (_, part) ← splitAtByte? start before
  return part

def sliceFrom? (start : Nat) (s : List Char) : Option (List Char) :=
  (splitAtByte? start s).map Prod.snd

end Stencil.Text
