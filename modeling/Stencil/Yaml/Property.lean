import Stencil.Number.Reading
import Stencil.Yaml.Token

/-!
# Names, tags and directives

What may stand in front of a node: an anchor, which gives it a name, and a tag, which gives it
a type; and what may stand in front of a document: its version, and short handles for the
beginnings of tags. A tag is written with the characters of addresses; others are written as
escaped octets, which have to make up characters and which are kept as octets.
-/

namespace Stencil.Yaml

/-! ### Names -/

/-- Whether a text may follow the name of an anchor. -/
def endsName (s : List Char) : Bool :=
  match s with
  | c :: _ => endsWord s || ['?', ':', ',', ']', '\x7d', '%', '@', '\x60'].contains c
  | [] => true

/-- Reads the name of an anchor or an alias at its mark. -/
def name? (c : Cursor) : Option (List Char × Cursor) :=
  let inside := c.skip 1
  let name := inside.run isWord
  let after := inside.skipRun isWord
  if !name.isEmpty && endsName after.rest then some (name, after) else none

/-! ### Tags -/

/-- A character of an address. Commas and brackets may be excluded. -/
def isAddress (all : Bool) (c : Char) : Bool :=
  isWord c || [';', '/', '?', ':', '@', '&', '=', '+', '$', '.', '%', '!', '~', '*', '\'', '(',
    ')'].contains c || (all && [',', '[', ']'].contains c)

/-- The number of octets of a character by its first octet. -/
def octets? (first : Nat) : Option Nat :=
  if first < 0x80 then some 1
  else if first < 0xC0 then none
  else if first < 0xE0 then some 2
  else if first < 0xF0 then some 3
  else if first < 0xF8 then some 4
  else none

/-- The number of octets still to come behind one, `due` of which were to come. -/
def octetsDue? (due octet : Nat) : Option Nat :=
  if due == 0 then (octets? octet).map (· - 1)
  else if 0x80 ≤ octet && octet < 0xC0 then some (due - 1)
  else none

/-- Reads an address on. `due` octets of a character are still to come. -/
def addressFrom (all : Bool) (due : Nat) (acc : List Char) :
    List Char → Mark → Option (List Char × Cursor)
  | [], m => if due == 0 then some (acc.reverse, ⟨[], m⟩) else none
  | '%' :: a :: b :: r, m =>
    match Number.digits? 16 [a, b] with
    | none => none
    | some octet =>
      match octetsDue? due octet with
      | none => none
      | some due => addressFrom all due (Char.ofNat octet :: acc) r (m.right 3)
  | c :: r, m =>
    if due != 0 || c == '%' then none
    else if isAddress all c then addressFrom all 0 (c :: acc) r (m.right 1)
    else some (acc.reverse, ⟨c :: r, m⟩)

/-- Reads an address of at least one character. -/
def address? (all : Bool) (c : Cursor) : Option (List Char × Cursor) :=
  (addressFrom all 0 [] c.rest c.mark).filter fun (text, _) => !text.isEmpty

/-- Reads a handle: words between exclamation marks, or one mark and perhaps a word behind it,
    which is no handle then but the beginning of a tag. -/
def handle? (c : Cursor) : Option (List Char × Cursor) :=
  if c.isAt '!' then
    let word := (c.skip 1).run isWord
    let after := (c.skip 1).skipRun isWord
    if after.isAt '!' then some ('!' :: (word ++ ['!']), after.skip 1)
    else some ('!' :: word, after)
  else none

/-- Whether a handle is closed by a second exclamation mark. -/
def isClosed (handle : List Char) : Bool := 2 ≤ handle.length && handle.getLast? == some '!'

/-- Reads a tag as a handle and a suffix. A tag in angle brackets has no handle, and neither
    has the tag that is nothing but an exclamation mark. -/
def tagParts? (c : Cursor) : Option (List Char × List Char × Cursor) :=
  if c.startsWith ['!', '<'] then do
    let (suffix, after) ← address? true (c.skip 2)
    if after.isAt '>' then return ([], suffix, after.skip 1) else none
  else do
    let (handle, after) ← handle? c
    if isClosed handle then
      let (suffix, after) ← address? false after
      return (handle, suffix, after)
    else
      let (suffix, after) ← addressFrom false 0 handle.tail.reverse after.rest after.mark
      if suffix.isEmpty then return ([], ['!'], after) else return (['!'], suffix, after)

def tag? (inFlow : Bool) (c : Cursor) : Option (Token × Cursor) := do
  let (handle, suffix, after) ← tagParts? c
  if (inFlow && after.isAt ',') || endsWord after.rest then
    return (.between (.tag handle suffix) c after, after)
  else none

/-! ### Directives -/

/-- Reads one part of a version: up to nine digits. -/
def versionPart? (c : Cursor) : Option (Nat × Cursor) :=
  let digits := c.run Char.isDigit
  if digits.length ≤ 9 then
    (Number.digits? 10 digits).map fun n => (n, c.skipRun Char.isDigit)
  else none

def version? (c : Cursor) : Option (Token.Kind × Cursor) := do
  let (major, c) ← versionPart? c.skipGap
  if c.isAt '.' then
    let (minor, c) ← versionPart? (c.skip 1)
    return (.version major minor, c)
  else none

def handleMeaning? (c : Cursor) : Option (Token.Kind × Cursor) := do
  let (name, c) ← handle? c.skipGap
  if (name == ['!'] || isClosed name) && c.rest.head?.any isGap then
    let (lead, c) ← address? true c.skipGap
    if endsWord c.rest then return (.handle name lead, c) else none
  else none

/-- Reads a directive at its mark: the token and the cursor behind its line. -/
def directive? (c : Cursor) : Option (Token × Cursor) := do
  let name := (c.skip 1).run isWord
  let behind := (c.skip 1).skipRun isWord
  if name.isEmpty || !endsWord behind.rest then none
  else
    let (kind, after) ←
      if name == ['Y', 'A', 'M', 'L'] then version? behind
      else if name == ['T', 'A', 'G'] then handleMeaning? behind
      else none
    let below ← after.endOfLine?
    return (.between kind c after, below)

end Stencil.Yaml
