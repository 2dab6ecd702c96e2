/-!
# Places in a text

A mark is a place in a text: how many characters, line breaks, and characters of the line lie
before it. A cursor is a mark with the text behind it. A carriage return with a line feed
behind it is one line break of two characters.
-/

namespace Stencil.Yaml

/-- A place in a text, counted from zero. -/
structure Mark where
  index : Nat
  line : Nat
  column : Nat
deriving DecidableEq, Repr, Inhabited

namespace Mark

def start : Mark := ⟨0, 0, 0⟩

/-- The place behind some characters of the same line. -/
def right (m : Mark) (n : Nat) : Mark := ⟨m.index + n, m.line, m.column + n⟩

/-- The place behind a line break of some characters. -/
def down (m : Mark) (n : Nat) : Mark := ⟨m.index + n, m.line + 1, 0⟩

end Mark

structure Cursor where
  rest : List Char
  mark : Mark

/-! ### Classes of characters -/

/-- A character that may stand in a document. -/
def isAllowed (c : Char) : Bool :=
  let n := c.toNat
  n == 0x09 || n == 0x0A || n == 0x0D || (0x20 ≤ n && n ≤ 0x7E) || n == 0x85 ||
    (0xA0 ≤ n && n ≤ 0xD7FF) || (0xE000 ≤ n && n ≤ 0xFFFD) || 0x10000 ≤ n

def isOrderMark (c : Char) : Bool := c.toNat == 0xFEFF

def isGap (c : Char) : Bool := c == ' ' || c == '\t'

def isBreak (c : Char) : Bool :=
  c == '\n' || c == '\r' || c.toNat == 0x85 || c.toNat == 0x2028 || c.toNat == 0x2029

/-- A character of a word: a letter or digit of ASCII, an underscore or a hyphen. -/
def isWord (c : Char) : Bool := c.isAlphanum || c == '_' || c == '-'

/-- Whether a text is at its end, or a gap or a line break follows. -/
def endsWord : List Char → Bool
  | [] => true
  | c :: _ => isGap c || isBreak c

/-- Whether a text is at its end, or a line break follows. -/
def endsLine : List Char → Bool
  | [] => true
  | c :: _ => isBreak c

/-- What a line break means in a scalar: a line feed, but for the two breaks that are kept. -/
def breakMeaning (c : Char) : Char :=
  if c.toNat == 0x2028 || c.toNat == 0x2029 then c else '\n'

namespace Cursor

def atEnd (c : Cursor) : Bool := c.rest.isEmpty

def peek? (c : Cursor) : Option Char := c.rest.head?

def isAt (c : Cursor) (x : Char) : Bool := c.rest.head? == some x

def startsWith (c : Cursor) (s : List Char) : Bool := s.isPrefixOf c.rest

/-- The cursor behind some characters, none of which is a line break. -/
def skip (c : Cursor) (n : Nat) : Cursor := ⟨c.rest.drop n, c.mark.right n⟩

/-- The characters of a class that come next, none of which is a line break. -/
def run (c : Cursor) (p : Char → Bool) : List Char := c.rest.takeWhile p

def skipRun (c : Cursor) (p : Char → Bool) : Cursor :=
  ⟨c.rest.dropWhile p, c.mark.right (c.rest.takeWhile p).length⟩

def skipGap (c : Cursor) : Cursor := c.skipRun isGap

/-- The line break that comes next, by its meaning, and the cursor behind it. -/
def break? (c : Cursor) : Option (Char × Cursor) :=
  match c.rest with
  | '\r' :: '\n' :: r => some ('\n', ⟨r, c.mark.down 2⟩)
  | x :: r => if isBreak x then some (breakMeaning x, ⟨r, c.mark.down 1⟩) else none
  | [] => none

/-- The cursor behind a line break, if one comes next. -/
def skipBreak (c : Cursor) : Cursor :=
  match c.break? with
  | some (_, after) => after
  | none => c

/-- The cursor behind gaps and a comment, at the end of the line; none if anything else is on
    the line. -/
def endOfLine? (c : Cursor) : Option Cursor :=
  let c := c.skipGap
  let c := if c.isAt '#' then c.skipRun (fun x => !isBreak x) else c
  if endsLine c.rest then some c.skipBreak else none

/-- Whether a text begins with one of the two marks of a document's border. -/
def isBorder : List Char → Bool
  | '-' :: '-' :: '-' :: r => endsWord r
  | '.' :: '.' :: '.' :: r => endsWord r
  | _ => false

end Cursor

end Stencil.Yaml
