import Stencil.Expression.Basic
import Stencil.Text.Distance

/-!
# Registries

A registry holds expressions in the order of their registration, each under its identifier in
upper case. No two expressions may claim each other's identifiers. An identifier is resolved by
its upper-case spelling first, and else by asking the expressions in order whether they claim
it.
-/

namespace Stencil

open Text

inductive RegistryError where
  /-- One of the two claims the other's identifier. -/
  | duplicate (identifier existing : String)
  /-- The identifier is no identifier. -/
  | invalidIdentifier (identifier : String)
deriving DecidableEq, Repr

def RegistryError.message : RegistryError → String
  | .duplicate identifier existing =>
    "duplicate expression identifier '" ++ identifier ++ "' (already claimed by '" ++ existing ++
      "')"
  | .invalidIdentifier identifier => "invalid expression identifier '" ++ identifier ++ "'"

/-- Expressions in order, each with its identifier in upper case. -/
structure Registry where
  entries : List (List Char × Expression)

namespace Registry

def empty : Registry := ⟨[]⟩

def expressions (r : Registry) : List Expression := r.entries.map Prod.snd

def identifiers (r : Registry) : List String := r.expressions.map Expression.identifier

def size (r : Registry) : Nat := r.entries.length

/-- The entries with an expression under a key: in the place of the one that has that key, or
    else behind all others. -/
def insert (key : List Char) (e : Expression) :
    List (List Char × Expression) → List (List Char × Expression)
  | [] => [(key, e)]
  | (k, old) :: rest => if k == key then (k, e) :: rest else (k, old) :: insert key e rest

/-- Whether two expressions cannot be told apart: one claims the identifier of the other. -/
def conflict (old new : Expression) : Bool :=
  old.claims new.identifier || new.claims old.identifier

def register (r : Registry) (e : Expression) : Except RegistryError Registry :=
  if !isIdentifier e.identifier then .error (.invalidIdentifier e.identifier)
  else
    match r.expressions.find? fun old => conflict old e with
    | some old => .error (.duplicate e.identifier old.identifier)
    | none => .ok ⟨insert (fold e.identifier) e r.entries⟩

/-- Adds expressions one after another, up to the first that is refused. -/
def registerAll (r : Registry) : List Expression → Except RegistryError Registry
  | [] => .ok r
  | e :: rest =>
    match r.register e with
    | .ok r => r.registerAll rest
    | .error error => .error error

/-- The expression under the upper-case spelling of an identifier, or else the first that
    claims it. -/
def resolve (r : Registry) (identifier : String) : Option Expression :=
  match r.entries.lookup (fold identifier) with
  | some e => some e
  | none => r.expressions.find? fun e => e.claims identifier

def contains (r : Registry) (identifier : String) : Bool := (r.resolve identifier).isSome

/-! ### Suggestions -/

def farthest : Nat := 3

/-- The closer of two candidates; the earlier one of two equally close. -/
def closer (best : Option (String × Nat)) (candidate : String × Nat) : Option (String × Nat) :=
  match best with
  | some b => if candidate.2 < b.2 then some candidate else some b
  | none => some candidate

/-- The registered identifier that is closest to an unknown one in upper case, if one is close. -/
def suggest (r : Registry) (identifier : String) : Option String :=
  let wanted := fold identifier
  let near := (r.identifiers.map fun i => (i, editDistance wanted i.toList)).filter
    fun c => c.2 ≤ farthest
  (near.foldl closer none).map Prod.fst

/-! ### What is said about it -/

def registered (identifier : String) : Log.Record where
  level := .debug
  origin := "mockexpr::registry"
  message := "registered expression"
  details := [Log.quoted "identifier" identifier]

def records (r : Registry) : List Log.Record := r.identifiers.map registered

end Registry

end Stencil
