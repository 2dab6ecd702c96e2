import Stencil.Pattern.Class
import Stencil.Text.Alphanumeric
import Stencil.Text.Search

/-!
# Whether a text is a pattern

A pattern is a choice between sequences of parts. A part is a character, a class, a group or an
edge; it may be repeated. Braces never come in pairs here, so that a brace outside a class
begins nothing. Groups may have names, each at most once, and the nesting is limited.
-/

namespace Stencil.Pattern

structure Part where
  depth : Nat
  /-- Whether it can be repeated; the letters that switch the mode cannot. -/
  repeatable : Bool
deriving DecidableEq, Repr

/-- A place in a pattern, with what the text in front of it has settled. -/
structure Place where
  rest : List Char
  mode : Mode
  names : List (List Char)
deriving DecidableEq, Repr

def Place.behind (p : Place) (r : List Char) : Place := { p with rest := r }

inductive Opening where
  /-- Letters that switch the mode for the rest of the group around them. -/
  | switches (inside : Place)
  | group (inside : Place)
deriving DecidableEq, Repr

/-- Whether a text can be the name of a group. -/
def isGroupName : List Char → Bool
  | [] => false
  | c :: r =>
    (c == '_' || Text.isAlphabetic c) &&
      r.all fun c => ['_', '.', '[', ']'].contains c || Text.isAlphanumeric c

def groupName? (p : Place) (s : List Char) : Option Opening :=
  match Text.splitFirst ['>'] s with
  | some (name, r) =>
    if isGroupName name && !p.names.contains name then
      some (.group { p with rest := r, names := name :: p.names })
    else none
  | none => none

/-- Reads the letters behind a question mark, up to the colon or bracket that ends them. -/
def switches? (p : Place) (s : List Char) : Option Opening :=
  let letters := s.takeWhile fun c => c != ':' && c != ')'
  let inside (r : List Char) : Place := { p with rest := r, mode := p.mode.switch letters }
  if Mode.areSwitches letters then
    match s.dropWhile fun c => c != ':' && c != ')' with
    | ':' :: r => some (.group (inside r))
    | ')' :: r => if letters.isEmpty then none else some (.switches (inside r))
    | _ => none
  else none

/-- Reads the head of a group behind its bracket. A group that only looks around itself is no
    part of a pattern. -/
def opening? (p : Place) : Option Opening :=
  match p.mode.skip p.rest with
  | '?' :: '=' :: _ => none
  | '?' :: '!' :: _ => none
  | '?' :: '<' :: '=' :: _ => none
  | '?' :: '<' :: '!' :: _ => none
  | '?' :: 'P' :: '<' :: r => groupName? p r
  | '?' :: '<' :: r => groupName? p r
  | '?' :: r => switches? p r
  | r => some (.group (p.behind r))

/-- Reads a part that is one character or begins with a backslash. -/
def atom? (m : Mode) : List Char → Option (List Char)
  | [] => none
  | '\\' :: r => (escape? m r).bind fun (e, r) => if e.isAllowed m then some r else none
  | '.' :: r => if m.overChars then some r else none
  | '^' :: r => some r
  | '$' :: r => some r
  | '\x7b' :: _ => none
  | c :: r => if m.allowsChar c false then some r else none

def repeated? : List Part → Option (List Part)
  | ⟨depth, true⟩ :: parts => some (⟨depth + 1, true⟩ :: parts)
  | _ => none

/-- Reads a choice up to the end of its group: its depth, and the place there. `before` are the
    depths of the sequences in front of the present one, `parts` the parts of that one, the last
    part first. The first argument bounds the number of steps. -/
def choice? : Nat → (before : List Nat) → (parts : List Part) → Place → Option (Nat × Place)
  | 0, _, _, _ => none
  | steps + 1, before, parts, p =>
    let depth := joined (parts.map Part.depth)
    match p.mode.skip p.rest with
    | [] => some (joined (depth :: before), p.behind [])
    | ')' :: r => some (joined (depth :: before), p.behind (')' :: r))
    | '|' :: r => choice? steps (depth :: before) [] (p.behind r)
    | '(' :: r =>
      match opening? (p.behind r) with
      | none => none
      | some (.switches inside) => choice? steps before (⟨0, false⟩ :: parts) inside
      | some (.group inside) => do
        let (depth, last) ← choice? steps [] [] inside
        match last.rest with
        | ')' :: r =>
          choice? steps before (⟨depth + 1, true⟩ :: parts) { last with rest := r, mode := p.mode }
        | _ => none
    | '[' :: r => do
      let (depth, r) ← class? p.mode r
      choice? steps before (⟨depth, true⟩ :: parts) (p.behind r)
    | c :: r =>
      if ['?', '*', '+'].contains c then do
        let parts ← repeated? parts
        choice? steps before parts (p.behind (if r.head? == some '?' then r.tail else r))
      else do
        let r ← atom? p.mode (c :: r)
        choice? steps before (⟨0, true⟩ :: parts) (p.behind r)

def deepest : Nat := 250

def isPattern (s : List Char) : Bool :=
  match choice? (s.length + 1) [] [] ⟨s, .usual, []⟩ with
  | some (depth, p) => p.rest.isEmpty && depth ≤ deepest
  | none => false

end Stencil.Pattern
