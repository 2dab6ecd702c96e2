import Stencil.Number.Reading
import Stencil.Yaml.Fold
import Stencil.Yaml.Token

/-!
# Quoted scalars

Between single quotes only the quote itself is special, and is written twice. Between double
quotes a backslash begins an escape; in front of a line break it takes the break away. Both
kinds are folded. The border of a document must not stand at the beginning of a line.
-/

namespace Stencil.Yaml

/-- The character that a letter behind a backslash stands for. -/
def shortEscape? (c : Char) : Option Char :=
  [('0', '\x00'), ('a', '\x07'), ('b', '\x08'), ('t', '\t'), ('\t', '\t'), ('n', '\n'),
    ('v', '\x0b'), ('f', '\x0c'), ('r', '\r'), ('e', '\x1b'), (' ', ' '), ('"', '"'),
    ('/', '/'), ('\\', '\\'), ('N', Char.ofNat 0x85), ('_', Char.ofNat 0xA0),
    ('L', Char.ofNat 0x2028), ('P', Char.ofNat 0x2029)].lookup c

/-- The number of hexadecimal digits behind a letter behind a backslash. -/
def longEscape? (c : Char) : Option Nat := [('x', 2), ('u', 4), ('U', 8)].lookup c

/-- The character of a code point, unless it belongs to a pair or lies beyond the last one. -/
def codePoint? (n : Nat) : Option Char := if n.isValidChar then some (Char.ofNat n) else none

/-- The character written by exactly `count` hexadecimal digits. -/
def hexChar? (count : Nat) (s : List Char) : Option Char :=
  let digits := s.take count
  if digits.length == count then (Number.digits? 16 digits).bind codePoint? else none

/-- The character that an escape stands for, and the number of characters that the escape has
    behind the backslash. -/
def escape? : List Char → Option (Char × Nat)
  | [] => none
  | c :: r =>
    match shortEscape? c with
    | some meaning => some (meaning, 1)
    | none => (longEscape? c).bind fun count => (hexChar? count r).map fun x => (x, count + 1)

/-- Reads a quoted scalar on, up to the quote that ends it. `apart` says that gaps or line
    breaks lie behind. -/
def quotedFrom (single : Bool) (apart : Bool) (f : Fold) (s : List Char) (m : Mark) :
    Option (Fold × Cursor) :=
  match s with
  | [] => none
  | '\r' :: '\n' :: r => quotedFrom single true (f.lineBreak '\n') r (m.down 2)
  | c :: r =>
    if isBreak c then quotedFrom single true (f.lineBreak (breakMeaning c)) r (m.down 1)
    else if isGap c then quotedFrom single true (f.gap c) r (m.right 1)
    else if apart && m.column == 0 && Cursor.isBorder (c :: r) then none
    else if single && c == '\'' then
      match r with
      | '\'' :: r => quotedFrom single false (f.char '\'') r (m.right 2)
      | r => some (f.settle, ⟨r, m.right 1⟩)
    else if !single && c == '"' then some (f.settle, ⟨r, m.right 1⟩)
    else if !single && c == '\\' then
      match r with
      | '\r' :: '\n' :: r => quotedFrom single true f.settle.escapedBreak r (m.down 3)
      | [] => none
      | d :: r =>
        if isBreak d then quotedFrom single true f.settle.escapedBreak r (m.down 2)
        else
          match escape? (d :: r) with
          | some (x, count) =>
            quotedFrom single false (f.char x) ((d :: r).drop count) (m.right (count + 1))
          | none => none
    else quotedFrom single false (f.char c) r (m.right 1)
termination_by s.length
decreasing_by all_goals simp only [List.length_cons, List.length_drop]; omega

/-- Reads a quoted scalar at its opening quote: the token and the cursor behind it. -/
def quotedScalar? (single : Bool) (c : Cursor) : Option (Token × Cursor) :=
  let inside := c.skip 1
  (quotedFrom single false .empty inside.rest inside.mark).map fun (f, after) =>
    (.between (.scalar .quoted f.result) c after, after)

end Stencil.Yaml
