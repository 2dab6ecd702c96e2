import Stencil.Yaml.Block
import Stencil.Yaml.Plain
import Stencil.Yaml.Property
import Stencil.Yaml.Quoted

/-!
# From text to tokens

Most tokens are seen at their first character. Two things are known only later. The beginning
and the end of a block follow from the indentation; and that a node is the key of a pair is
known only when a colon follows it, on the same line and within 1024 characters. Until then the
tokens from the possible key on are held back, and if the text turns out to be no document,
they are lost.
-/

namespace Stencil.Yaml

/-- A node that may turn out to be the key of a pair. -/
structure PossibleKey where
  /-- Whether it has to be one, because it begins a line of its block. -/
  required : Bool
  /-- The number of its first token. -/
  number : Nat
  mark : Mark

/-- A text that is partly turned into tokens. -/
structure Lexer where
  cursor : Cursor
  /-- The possible key of the current flow or block. -/
  key : Option PossibleKey
  /-- The possible keys around the open flows. -/
  outer : List (Option PossibleKey)
  /-- Whether a key may begin here. -/
  keyAllowed : Bool
  /-- The indentation of the current block, and of those around it. -/
  indent : Int
  indents : List Int
  /-- Tokens that are certain, in reverse, and their number. -/
  released : List Token
  count : Nat
  /-- Tokens that are held back. -/
  pending : List Token

namespace Lexer

def start (text : List Char) : Lexer where
  cursor := ⟨text, .start⟩
  key := none
  outer := []
  keyAllowed := true
  indent := -1
  indents := []
  released := []
  count := 0
  pending := []

def inFlow (l : Lexer) : Bool := !l.outer.isEmpty

def column (l : Lexer) : Int := l.cursor.mark.column

def push (l : Lexer) (t : Token) : Lexer := { l with pending := l.pending ++ [t] }

/-- Inserts a token in front of the one of a number. -/
def insert (l : Lexer) (number : Nat) (t : Token) : Lexer :=
  { l with pending := l.pending.take (number - l.count) ++ t :: l.pending.drop (number - l.count) }

def take (l : Lexer) (kind : Token.Kind) (n : Nat) : Lexer :=
  let after := l.cursor.skip n
  { l with cursor := after, pending := l.pending ++ [.between kind l.cursor after] }

/-- Adds a token that has been read and moves behind it. -/
def accept (l : Lexer) (t : Token) (after : Cursor) : Lexer :=
  { l with cursor := after, pending := l.pending ++ [t] }

/-! ### Blocks -/

def emptyToken (kind : Token.Kind) (m : Mark) : Token := ⟨kind, m, m⟩

/-- The indentations up to a column, with the number of blocks that end. -/
def unwind (column indent : Int) : List Int → Int × List Int × Nat
  | [] => if column < indent then (-1, [], 1) else (indent, [], 0)
  | outer :: rest =>
    if column < indent then
      let (i, is, n) := unwind column outer rest
      (i, is, n + 1)
    else (indent, outer :: rest, 0)

/-- Ends the blocks that are indented more than a column. -/
def unroll (l : Lexer) (column : Int) : Lexer :=
  if l.inFlow then l
  else
    let (indent, indents, ended) := unwind column l.indent l.indents
    { l with
      indent := indent
      indents := indents
      pending := l.pending ++ List.replicate ended (emptyToken .blockEnd l.cursor.mark) }

/-- Begins a block at a column, unless one has begun there: its token goes in front of the one
    of a number, or else behind all others. -/
def roll (l : Lexer) (column : Int) (number : Option Nat) (kind : Token.Kind) (m : Mark) :
    Lexer :=
  if l.inFlow || column ≤ l.indent then l
  else
    let l := { l with indent := column, indents := l.indent :: l.indents }
    match number with
    | some number => l.insert number (emptyToken kind m)
    | none => l.push (emptyToken kind m)

/-! ### Possible keys -/

/-- Gives up the possible key; none if it has to be one. -/
def dropKey? (l : Lexer) : Option Lexer :=
  match l.key with
  | some k => if k.required then none else some { l with key := none }
  | none => some l

def keyHere (l : Lexer) : PossibleKey where
  required := !l.inFlow && l.indent == l.column
  number := l.count + l.pending.length
  mark := l.cursor.mark

def saveKey? (l : Lexer) : Option Lexer :=
  if l.keyAllowed then l.dropKey?.map fun l => { l with key := some l.keyHere } else some l

def longestKey : Nat := 1024

/-- Gives up a possible key that is on another line or too long; none if it has to be one. -/
def refreshKey? (place : Mark) : Option PossibleKey → Option (Option PossibleKey)
  | none => some none
  | some k =>
    if k.mark.line < place.line || k.mark.index + longestKey < place.index then
      if k.required then none else some none
    else some (some k)

/-- Gives up all possible keys that cannot be keys any more. -/
def refresh? (l : Lexer) : Option Lexer := do
  let key ← refreshKey? l.cursor.mark l.key
  let outer ← l.outer.mapM (refreshKey? l.cursor.mark)
  return { l with key := key, outer := outer }

/-- Whether a token of a number may turn out to be a key. -/
def mayBeKey (l : Lexer) (number : Nat) : Bool :=
  (l.key :: l.outer).any fun k => k.any fun k => k.number == number

/-- Releases the tokens in front of the first that may turn out to be a key. -/
def releaseFrom (l : Lexer) (released : List Token) (count : Nat) : List Token → Lexer
  | [] => { l with released := released, count := count, pending := [] }
  | t :: rest =>
    if l.mayBeKey count then { l with released := released, count := count, pending := t :: rest }
    else releaseFrom l (t :: released) (count + 1) rest

def release (l : Lexer) : Lexer := l.releaseFrom l.released l.count l.pending

/-! ### Between tokens -/

/-- Passes gaps, comments and line breaks. A tab is a gap only in a flow or where no key may
    begin; a mark of byte order is one at the beginning of a line; behind a line break a key may
    begin, except in a flow. The result says whether one may. -/
def skipFrom (inFlow : Bool) (comment allowed : Bool) : List Char → Mark → Cursor × Bool
  | [], m => (⟨[], m⟩, allowed)
  | '\r' :: '\n' :: r, m => skipFrom inFlow false (allowed || !inFlow) r (m.down 2)
  | c :: r, m =>
    if isBreak c then skipFrom inFlow false (allowed || !inFlow) r (m.down 1)
    else if comment || c == '#' then skipFrom inFlow true allowed r (m.right 1)
    else if c == ' ' || (c == '\t' && (inFlow || !allowed)) || (isOrderMark c && m.column == 0)
    then skipFrom inFlow false allowed r (m.right 1)
    else (⟨c :: r, m⟩, allowed)

def skipToToken (l : Lexer) : Lexer :=
  let (cursor, allowed) := skipFrom l.inFlow false l.keyAllowed l.cursor.rest l.cursor.mark
  { l with cursor := cursor, keyAllowed := allowed }

/-! ### Tokens by their first character -/

def fetchEnd? (l : Lexer) : Option Lexer := do
  let m := l.cursor.mark
  let l := if m.column == 0 then l else { l with cursor := ⟨[], m.down 0⟩ }
  let l ← (l.unroll (-1)).dropKey?
  return ({ l with keyAllowed := false }).push (emptyToken .streamEnd l.cursor.mark)

def fetchDirective? (l : Lexer) : Option Lexer := do
  let l ← (l.unroll (-1)).dropKey?
  let (t, after) ← directive? l.cursor
  return ({ l with keyAllowed := false }).accept t after

def fetchBorder? (l : Lexer) (kind : Token.Kind) : Option Lexer := do
  let l ← (l.unroll (-1)).dropKey?
  return ({ l with keyAllowed := false }).take kind 3

def fetchOpening? (l : Lexer) (kind : Token.Kind) : Option Lexer := do
  let l ← l.saveKey?
  return ({ l with key := none, outer := l.key :: l.outer, keyAllowed := true }).take kind 1

def fetchClosing? (l : Lexer) (kind : Token.Kind) : Option Lexer := do
  let l ← l.dropKey?
  let l := match l.outer with
    | key :: outer => { l with key := key, outer := outer }
    | [] => l
  return ({ l with keyAllowed := false }).take kind 1

def fetchComma? (l : Lexer) : Option Lexer := do
  let l ← l.dropKey?
  return ({ l with keyAllowed := true }).take .comma 1

def fetchEntry? (l : Lexer) : Option Lexer := do
  if !l.inFlow && !l.keyAllowed then none
  else
    let l ← (l.roll l.column none .blockSequence l.cursor.mark).dropKey?
    return ({ l with keyAllowed := true }).take .entry 1

def fetchKey? (l : Lexer) : Option Lexer := do
  if !l.inFlow && !l.keyAllowed then none
  else
    let l ← (l.roll l.column none .blockMapping l.cursor.mark).dropKey?
    return ({ l with keyAllowed := !l.inFlow }).take .key 1

/-- The colon of a value: the possible key is a key. -/
def fetchValue? (l : Lexer) : Option Lexer :=
  match l.key with
  | some k =>
    let l := l.insert k.number (emptyToken .key k.mark)
    let l := l.roll k.mark.column (some k.number) .blockMapping k.mark
    some (({ l with key := none, keyAllowed := false }).take .value 1)
  | none =>
    if !l.inFlow && !l.keyAllowed then none
    else
      let l := l.roll l.column none .blockMapping l.cursor.mark
      some (({ l with keyAllowed := !l.inFlow }).take .value 1)

/-- A node that may be a key, and how to read its token. -/
def fetchNode? (l : Lexer) (read : Cursor → Option (Token × Cursor)) : Option Lexer := do
  let l ← l.saveKey?
  let (t, after) ← read l.cursor
  return ({ l with keyAllowed := false }).accept t after

def fetchName? (l : Lexer) (kind : List Char → Token.Kind) : Option Lexer :=
  l.fetchNode? fun c => (name? c).map fun (name, after) => (.between (kind name) c after, after)

def fetchBlockScalar? (l : Lexer) (literal : Bool) : Option Lexer := do
  let l ← l.dropKey?
  let (t, after) ← blockScalar? literal l.indent l.cursor
  return ({ l with keyAllowed := true }).accept t after

/-- A plain scalar. Behind a line break at its end a key may begin. -/
def fetchPlain? (l : Lexer) : Option Lexer := do
  let l ← l.saveKey?
  let (t, broken, after) ← plainScalar? ⟨l.inFlow, (l.indent + 1).toNat⟩ l.cursor
  return ({ l with keyAllowed := broken }).accept t after

/-- The characters that stand for something of their own, or are set aside. -/
def marks : List Char :=
  ['-', '?', ':', ',', '[', ']', '\x7b', '\x7d', '#', '&', '*', '!', '|', '>', '\'',
    '"', '%', '@', '\x60']

/-- Whether a plain scalar may begin with a character in front of some text. A tab may stand
    where no gap is passed, and begins nothing. -/
def beginsPlain (inFlow : Bool) (c : Char) (r : List Char) : Bool :=
  !(isGap c || marks.contains c) ||
    (c == '-' && !(r.head?.any isGap)) ||
    (!inFlow && (c == '?' || c == ':') && !endsWord r)

/-- Reads the token that begins with a character in front of some text. -/
def fetchAt? (l : Lexer) (c : Char) (r : List Char) : Option Lexer :=
  let first := l.cursor.mark.column == 0
  if first && c == '%' then l.fetchDirective?
  else if first && Cursor.isBorder (c :: r) then
    l.fetchBorder? (if c == '-' then .documentStart else .documentEnd)
  else if c == '[' then l.fetchOpening? .flowSequence
  else if c == '\x7b' then l.fetchOpening? .flowMapping
  else if c == ']' then l.fetchClosing? .flowSequenceEnd
  else if c == '\x7d' then l.fetchClosing? .flowMappingEnd
  else if c == ',' then l.fetchComma?
  else if c == '-' && endsWord r then l.fetchEntry?
  else if c == '?' && (l.inFlow || endsWord r) then l.fetchKey?
  else if c == ':' && (l.inFlow || endsWord r) then l.fetchValue?
  else if c == '*' then l.fetchName? .alias
  else if c == '&' then l.fetchName? .anchor
  else if c == '!' then l.fetchNode? (tag? l.inFlow)
  else if c == '|' && !l.inFlow then l.fetchBlockScalar? true
  else if c == '>' && !l.inFlow then l.fetchBlockScalar? false
  else if c == '\'' then l.fetchNode? (quotedScalar? true)
  else if c == '"' then l.fetchNode? (quotedScalar? false)
  else if beginsPlain l.inFlow c r then l.fetchPlain?
  else none

/-- Reads the next token, at which the place is. -/
def fetch? (l : Lexer) : Option Lexer := do
  let l ← l.refresh?
  let l := l.unroll l.column
  match l.cursor.rest with
  | [] => l.fetchEnd?
  | c :: r => l.fetchAt? c r

/-- Reads tokens up to the end of the text, or up to where it turns out to be no document. Every
    token takes at least one character, so `fuel` is the number of characters and one. -/
def runFrom : Nat → Lexer → Lexer
  | 0, l => l
  | fuel + 1, l =>
    let l := l.skipToToken
    match l.fetch?.bind refresh? with
    | none => l
    | some next => if l.cursor.atEnd then next.release else runFrom fuel next.release

end Lexer

/-- The tokens of a text. If it is no document, they end where that is seen, without a token for
    the end of the text. -/
def tokens (text : List Char) : List Token :=
  if text.all isAllowed then
    (Lexer.runFrom (text.length + 1) (.start text)).released.reverse
  else []

end Stencil.Yaml
