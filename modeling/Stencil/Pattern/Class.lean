import Stencil.Pattern.Escape

/-!
# Classes of characters in a pattern

A class stands in square brackets: characters, ranges, named classes, and classes within it,
perhaps combined by intersection or difference. Reading a class gives its depth, by which the
depth of the whole pattern is limited.
-/

namespace Stencil.Pattern

/-- The depth of parts that stand side by side. One part alone is not nested any deeper. -/
def joined : List Nat → Nat
  | [] => 0
  | [depth] => depth
  | depths => depths.foldl max 0 + 1

/-- The depth of a class that combines what is on the left with what is on the right. -/
def combined (left : Option Nat) (right : Nat) : Nat :=
  match left with
  | some left => max left right + 1
  | none => right

def classNames : List String :=
  ["alnum", "alpha", "ascii", "blank", "cntrl", "digit", "graph", "lower", "print", "punct",
    "space", "upper", "word", "xdigit"]

/-- Reads a class by its name, behind the bracket: whether all but its members are meant. -/
def named? : List Char → Option (Bool × List Char)
  | ':' :: r =>
    let negated := r.head? == some '^'
    let r := if negated then r.tail else r
    match r.dropWhile (· != ':') with
    | ':' :: ']' :: after =>
      if classNames.contains (String.ofList (r.takeWhile (· != ':'))) then some (negated, after)
      else none
    | _ => none
  | _ => none

def member? (m : Mode) : List Char → Option (Escape × List Char)
  | [] => none
  | '\\' :: r => escape? m r
  | c :: r => some (.char c false, r)

/-- Whether a member may stand alone in a class. -/
def isMember (m : Mode) : Escape → Bool
  | .char c _ => m.allowsMember c
  | .kind negated => m.allowsKind negated
  | .textEdge => false
  | .wordEdge => false

def isRange (m : Mode) : Escape → Escape → Bool
  | .char low _, .char high _ => m.allowsMember low && m.allowsMember high && low ≤ high
  | _, _ => false

def memberOrRange? (m : Mode) (s : List Char) : Option (List Char) := do
  let (first, r) ← member? m s
  match m.skip r with
  | [] => none
  | '-' :: r =>
    if m.startsRangeEnd r then do
      let (last, r) ← member? m (m.skip r)
      if isRange m first last then some r else none
    else if isMember m first then some ('-' :: r) else none
  | r => if isMember m first then some r else none

/-- Reads the text of a class behind its bracket: the depth of the class, and the text behind it.
    `left` is the depth of what an operator combines with the rest, `depths` are those of the
    members since. While the class is `fresh`, a minus is a member, and so is a bracket that
    would leave the class empty. The first argument bounds the number of steps. -/
def members? (m : Mode) : Nat → (fresh : Bool) → (left : Option Nat) → (depths : List Nat) →
    List Char → Option (Nat × List Char)
  | 0, _, _, _, _ => none
  | steps + 1, fresh, left, depths, s =>
    let operator (r : List Char) : Option (Nat × List Char) :=
      members? m steps false (some (combined left (joined depths))) [] r
    match m.skip s with
    | [] => none
    | ']' :: r =>
      if fresh && depths.isEmpty then
        if m.allowsMember ']' then members? m steps false left [0] r else none
      else some (combined left (joined depths), r)
    | '[' :: r =>
      match named? r with
      | some (negated, r) =>
        if m.allowsNamed negated then members? m steps false left (0 :: depths) r else none
      | none => do
        let r := m.skip r
        let negated := r.head? == some '^'
        if negated && !m.overChars then none
        let (depth, r) ← members? m steps true none [] (if negated then r.tail else r)
        members? m steps false left ((depth + 1) :: depths) r
    | c :: r =>
      if c == '-' && fresh then
        if m.allowsMember '-' then members? m steps true left (0 :: depths) r else none
      else if ['&', '-', '~'].contains c && r.head? == some c then operator r.tail
      else do
        let r ← memberOrRange? m (c :: r)
        members? m steps false left (0 :: depths) r

def class? (m : Mode) (s : List Char) : Option (Nat × List Char) := do
  let r := m.skip s
  let negated := r.head? == some '^'
  if negated && !m.overChars then none
  let (depth, r) ← members? m (s.length + 1) true none [] (if negated then r.tail else r)
  return (depth + 1, r)

end Stencil.Pattern
