import Stencil.Yaml.Fold
import Stencil.Yaml.Token

/-!
# Block scalars

A block scalar is a header on the line of its mark, and indented lines below it. In a literal
one every line break counts; in a folded one the break between two lines that begin with text
becomes a space. The header can give the indentation, which is else that of the first line with
text, and say what becomes of the line breaks at the end.
-/

namespace Stencil.Yaml

/-- What becomes of the line breaks at the end. -/
inductive Chomping where
  /-- All are dropped. -/
  | strip
  /-- The first is kept. -/
  | clip
  /-- All are kept. -/
  | keep
deriving DecidableEq, Repr

/-- What the header of a block scalar says. -/
structure BlockHeader where
  chomping : Chomping
  /-- The indentation against the surrounding block; zero where it has to be found. -/
  increment : Nat
deriving DecidableEq, Repr

namespace BlockHeader

def chomping? : List Char → Option (Chomping × List Char)
  | '+' :: r => some (.keep, r)
  | '-' :: r => some (.strip, r)
  | _ => none

/-- Reads a digit of indentation; none if it is zero. Without a digit it is to be found. -/
def increment? : List Char → Option (Nat × List Char)
  | c :: r =>
    if c == '0' then none
    else if c.isDigit then some (c.toNat - '0'.toNat, r)
    else some (0, c :: r)
  | [] => some (0, [])

/-- Reads what a header says, in either order, and gives what is behind it. -/
def read? (s : List Char) : Option (BlockHeader × List Char) :=
  match chomping? s with
  | some (chomping, r) => (increment? r).map fun (n, r) => (⟨chomping, n⟩, r)
  | none =>
    (increment? s).map fun (n, r) =>
      if n == 0 then (⟨.clip, 0⟩, r)
      else
        match chomping? r with
        | some (chomping, r) => (⟨chomping, n⟩, r)
        | none => (⟨.clip, n⟩, r)

end BlockHeader

/-- What lies in front of a line of a block scalar: line breaks by their meaning, in reverse,
    and the greatest indentation among the empty lines. -/
structure Margin where
  breaks : List Char
  widest : Nat
  cursor : Cursor

/-- Passes empty lines and the indentation of the next one, up to `indent` columns, or all of
    it if `indent` is zero. A tab must not stand where a space could. -/
def marginFrom (indent : Nat) (breaks : List Char) (widest : Nat) :
    List Char → Mark → Option Margin
  | [], m => some ⟨breaks, max widest m.column, ⟨[], m⟩⟩
  | '\r' :: '\n' :: r, m =>
    marginFrom indent ('\n' :: breaks) (max widest m.column) r (m.down 2)
  | c :: r, m =>
    let within := indent == 0 || decide (m.column < indent)
    if within && c == ' ' then marginFrom indent breaks widest r (m.right 1)
    else if within && c == '\t' then none
    else if isBreak c then
      marginFrom indent (breakMeaning c :: breaks) (max widest m.column) r (m.down 1)
    else some ⟨breaks, max widest m.column, ⟨c :: r, m⟩⟩

/-- A block scalar under construction, everything in reverse. -/
structure BlockText where
  text : List Char
  /-- The line break at the end of the last line. -/
  ending : List Char
  /-- The empty lines behind it. -/
  breaks : List Char
  /-- Whether the last line began with a gap. -/
  gapped : Bool

namespace BlockText

/-- The text with one more line. Between two lines of a folded scalar that begin with text, a
    line feed becomes a space, or nothing if empty lines follow. -/
def line (literal : Bool) (b : BlockText) (gapped : Bool) (content : List Char) : List Char :=
  let joint :=
    if !literal && b.ending == ['\n'] && !b.gapped && !gapped then
      if b.breaks.isEmpty then [' '] else []
    else b.ending
  content.reverse ++ (b.breaks ++ (joint ++ b.text))

def result (chomping : Chomping) (b : BlockText) : String :=
  String.ofList (match chomping with
    | .strip => b.text
    | .clip => b.ending ++ b.text
    | .keep => b.breaks ++ (b.ending ++ b.text)).reverse

end BlockText

/-- Reads the lines of a block scalar from the indentation of the next one on. Every line takes
    at least one character, so `fuel` is the number of characters. -/
def linesFrom (literal : Bool) (indent : Nat) :
    Nat → BlockText → Cursor → Option (BlockText × Cursor)
  | 0, b, c => some (b, c)
  | fuel + 1, b, c =>
    if c.mark.column == indent && !c.atEnd then
      let gapped := c.rest.head?.any isGap
      let content := c.run fun x => !isBreak x
      let behind := c.skipRun fun x => !isBreak x
      let text := b.line literal gapped content
      let (ending, behind) := match behind.break? with
        | some (meaning, after) => ([meaning], after)
        | none => ([], behind)
      match marginFrom indent [] 0 behind.rest behind.mark with
      | none => none
      | some margin => linesFrom literal indent fuel ⟨text, ending, margin.breaks, gapped⟩
          margin.cursor
    else some (b, c)

/-- The indentation of a block scalar in a block of indentation `parent`: the given one, or
    that of its first line, but at least one more than the block has. -/
def blockIndent (parent : Int) (increment widest : Nat) : Nat :=
  if increment == 0 then max (max widest (parent + 1).toNat) 1
  else (max parent 0).toNat + increment

/-- Reads a block scalar at its mark: the token and the cursor behind it. -/
def blockScalar? (literal : Bool) (parent : Int) (c : Cursor) : Option (Token × Cursor) := do
  let (header, r) ← BlockHeader.read? c.rest.tail
  let behind := c.skip (c.rest.length - r.length)
  let below ← behind.endOfLine?
  let given := if header.increment == 0 then 0 else blockIndent parent header.increment 0
  let margin ← marginFrom given [] 0 below.rest below.mark
  let indent := if given == 0 then blockIndent parent 0 margin.widest else given
  let (b, after) ← linesFrom literal indent (margin.cursor.rest.length + 1)
    ⟨[], [], margin.breaks, false⟩ margin.cursor
  let style := if literal then Style.literal else Style.folded
  return (.between (.scalar style (b.result header.chomping)) c after, after)

end Stencil.Yaml
