import Stencil.Yaml.Fold
import Stencil.Yaml.Token

/-!
# Plain scalars

A scalar without quotes runs up to a colon in front of a gap, up to a comment, or up to the
border of a document. In a flow it ends also at the marks of the flow; in a block it ends where
a line is indented less than the scalar has to be.
-/

namespace Stencil.Yaml

/-- Where a plain scalar stands: in a flow or not, and the least indentation of its lines. -/
structure PlainContext where
  inFlow : Bool
  indent : Nat

/-- Whether a character must not follow a colon in a plain scalar of a flow. -/
def clashesWithColon (c : Char) : Bool := [',', '?', '[', ']', '\x7b', '\x7d'].contains c

/-- Whether a character ends a plain scalar of a flow. -/
def endsInFlow (c : Char) : Bool := [',', '[', ']', '\x7b', '\x7d'].contains c

/-- Whether a colon in front of this text is refused. -/
def refusesColon (inFlow : Bool) : List Char → Bool
  | d :: _ => inFlow && clashesWithColon d
  | [] => false

/-- Reads a plain scalar on. Between lines and words (`apart`) there may be an end that cannot
    be inside a word. `last` is the place behind the last character of text. -/
def plainFrom (ctx : PlainContext) (apart : Bool) (f : Fold) (last : Mark) :
    List Char → Mark → Option (Fold × Mark × Cursor)
  | [], m => some (f, last, ⟨[], m⟩)
  | '\r' :: '\n' :: r, m => plainFrom ctx true (f.lineBreak '\n') last r (m.down 2)
  | c :: r, m =>
    if isBreak c then plainFrom ctx true (f.lineBreak (breakMeaning c)) last r (m.down 1)
    else if isGap c then
      if f.broken && decide (m.column < ctx.indent) && c == '\t' then none
      else plainFrom ctx true (f.gap c) last r (m.right 1)
    else if apart && !ctx.inFlow && decide (m.column < ctx.indent) then
      some (f, last, ⟨c :: r, m⟩)
    else if apart && ((m.column == 0 && Cursor.isBorder (c :: r)) || c == '#') then
      some (f, last, ⟨c :: r, m⟩)
    else if c == ':' && refusesColon ctx.inFlow r then none
    else if (c == ':' && endsWord r) || (ctx.inFlow && endsInFlow c) then
      some (f, last, ⟨c :: r, m⟩)
    else plainFrom ctx false (f.char c) (m.right 1) r (m.right 1)

/-- Reads a plain scalar: the token, whether it ended behind a line break, and the cursor behind
    it. -/
def plainScalar? (ctx : PlainContext) (c : Cursor) : Option (Token × Bool × Cursor) :=
  (plainFrom ctx false .empty c.mark c.rest c.mark).map fun (f, last, after) =>
    (⟨.scalar .plain f.result, c.mark, last⟩, f.broken, after)

end Stencil.Yaml
