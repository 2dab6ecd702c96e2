import Stencil.Log.Threshold
import Stencil.Number.Decimal
import Stencil.Pattern.Grammar
import Stencil.Text.Slice

/-!
# Directives of a log filter

A directive is a level (`debug`), an origin with a level (`mockexpr::template=debug`), or an
origin alone, which shows all its records. Between the origin and the level there may be
brackets with the name of a span and with a detail in braces (`mockexpr[{limit}]=warn`).
A detail alone is asked of the record itself. A span, or a detail with a value, waits for a
span, and no record is made inside one.

Blanks around a directive are passed over in looking for its marks, but the parts of it are cut
from the text with its blanks, at the offsets that the marks have without them. So a blank in
front moves each part by one, and one at the end belongs to the last part.
-/

namespace Stencil.Log

open Stencil.Text

/-- A directive: whose records it speaks of, and which of them it lets through. -/
structure Directive where
  /-- What the origin of a record begins with, if it matters. -/
  origin : Option String
  /-- Whether a span is waited for. -/
  waits : Bool
  /-- The detail that a record has to have, if it has to have one. -/
  detail : Option String
  threshold : Threshold
deriving DecidableEq, Repr

/-- What stands in front of the level of a directive. -/
structure Subject where
  origin : Option String
  waits : Bool
  detail : Option String
deriving DecidableEq, Repr

namespace Subject

/-- The records of an origin, or all records. -/
def ofOrigin (origin : Option (List Char)) : Subject := ⟨origin.map String.ofList, false, none⟩

def directive (d : Subject) (t : Threshold) : Directive := ⟨d.origin, d.waits, d.detail, t⟩

/-- The records that moreover have a detail. With a value behind an equals sign, which is a
    number or a pattern, they are waited for instead. -/
def withDetail? (d : Subject) (text : List Char) : Option Subject :=
  if text.isEmpty then none
  else
    let found := { d with detail := some (String.ofList (text.takeWhile (· != '='))) }
    match text.dropWhile (· != '=') with
    | [] => some found
    | _ :: r =>
      let value := r.takeWhile (· != '=')
      if (Number.Double.read? value).isSome || Pattern.isPattern value then
        some { found with waits := true }
      else none

end Subject

namespace Directive

def beginsOrigin (c : Char) : Bool := ['-', ':', '_'].contains c || isAlphanumeric c

/-- Reads what follows the brackets: the rest of the text without blanks, which begins at
    `start`. -/
def afterBrackets? (whole : List Char) (d : Subject) (start : Nat) :
    List Char → Option Directive
  | [] => some (d.directive .all)
  | '=' :: _ => do
    let level ← sliceFrom? (start + 1) whole
    let t ← Threshold.readBehindSign? level
    return d.directive t
  | _ => none

def inBraces? (whole : List Char) (d : Subject) (start : Nat) (r : List Char) :
    Option Directive :=
  let stop := start + byteLength (r.takeWhile (· != '\x7d'))
  match r.dropWhile (· != '\x7d') with
  | _ :: ']' :: r => do
    let text ← slice? start stop whole
    let d ← d.withDetail? text
    afterBrackets? whole d (stop + 2) r
  | _ => none

def inBrackets? (whole : List Char) (d : Subject) (start : Nat) (r : List Char) :
    Option Directive :=
  let ends (c : Char) : Bool := c == ']' || c == '\x7b'
  let stop := start + byteLength (r.takeWhile fun c => !ends c)
  match r.dropWhile fun c => !ends c with
  | [] => none
  | ']' :: r => afterBrackets? whole { d with waits := true } (stop + 1) r
  | _ :: r => do
    let name ← slice? start stop whole
    inBraces? whole { d with waits := !name.isEmpty } (stop + 1) r

/-- Reads a directive without marks: a level, or else an origin all of whose records are let
    through. -/
def ofName (s : List Char) : Directive :=
  match Threshold.read? s with
  | some t => (Subject.ofOrigin none).directive t
  | none => (Subject.ofOrigin (some s)).directive .all

def read? (s : List Char) : Option Directive :=
  let ends (c : Char) : Bool := c == '=' || c == '['
  match trim s with
  | [] => none
  | '[' :: r => inBrackets? s (.ofOrigin none) 1 r
  | c :: r =>
    if beginsOrigin c then
      let stop := byteLength ((c :: r).takeWhile fun c => !ends c)
      match (c :: r).dropWhile fun c => !ends c with
      | [] => some (ofName s)
      | mark :: r => do
        let origin ← slice? 0 stop s
        let d := Subject.ofOrigin (some origin)
        if mark == '=' then afterBrackets? s d stop (mark :: r)
        else inBrackets? s d (stop + 1) r
    else none

def concerns (d : Directive) (r : Record) : Bool :=
  !d.waits && (d.origin.all fun lead => lead.toList.isPrefixOf r.origin.toList) &&
    d.detail.all r.names.contains

/-- Whether a directive is at least as special as another one that speaks of the same record: by
    the length of its origin, then by its detail; a detail is more special than none. -/
def atLeast (d other : Directive) : Bool :=
  let length (d : Directive) : Nat := (d.origin.map fun lead => lead.length + 1).getD 0
  length other < length d ||
    (length d == length other && decide (other.detail.getD "" ≤ d.detail.getD ""))

end Directive

end Stencil.Log
