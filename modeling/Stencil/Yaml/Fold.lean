import Stencil.Yaml.Cursor

/-!
# Folding

A scalar that runs over several lines is folded: a single line break becomes a space, further
ones are kept, and the gaps around them vanish. `Fold` is the text so far together with the
gap or the line breaks that have not yet been decided on.
-/

namespace Stencil.Yaml

/-- A scalar under construction, everything in reverse. -/
structure Fold where
  /-- The text that is decided. -/
  text : List Char
  /-- Gaps behind the text, on the same line. -/
  gaps : List Char
  /-- Whether the line has been left. -/
  broken : Bool
  /-- The line break by which it was left, unless that break was escaped. -/
  first : Option Char
  /-- Further line breaks. -/
  further : List Char

namespace Fold

def empty : Fold := ⟨[], [], false, none, []⟩

def gap (f : Fold) (c : Char) : Fold := if f.broken then f else { f with gaps := c :: f.gaps }

/-- A line break of this meaning comes next. -/
def lineBreak (f : Fold) (c : Char) : Fold :=
  if f.broken then { f with further := c :: f.further }
  else { f with gaps := [], broken := true, first := some c }

/-- A line break comes next that shall leave no trace. -/
def escapedBreak (f : Fold) : Fold := { f with broken := true }

/-- What the gap or the line breaks mean, in reverse. -/
def meaning (f : Fold) : List Char :=
  if f.broken then
    match f.first with
    | some '\n' => if f.further.isEmpty then [' '] else f.further
    | some c => f.further ++ [c]
    | none => f.further
  else f.gaps

/-- The scalar with the gap or the line breaks decided, because text comes next. -/
def settle (f : Fold) : Fold := ⟨f.meaning ++ f.text, [], false, none, []⟩

def char (f : Fold) (c : Char) : Fold := { f.settle with text := c :: f.settle.text }

def result (f : Fold) : String := String.ofList f.text.reverse

end Fold

end Stencil.Yaml
