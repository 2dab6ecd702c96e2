import Stencil.Text.Ascii
import Stencil.Text.Blank
import Stencil.Log.Record

/-!
# Calls

What a placeholder asks for: an identifier with arguments. An argument is positional or has a
name. Named arguments do not take part in the count of the positional ones, names are compared
without regard to case, and of two arguments of one name the first is meant.
-/

namespace Stencil

open Text

/-- An argument: positional if it has no name. -/
structure Argument where
  name : Option String
  value : String
deriving DecidableEq, Repr

namespace Argument

def positional (value : String) : Argument := ⟨none, value⟩

def named (name value : String) : Argument := ⟨some name, value⟩

def hasName (a : Argument) (name : String) : Bool :=
  match a.name with
  | some n => sameName n name
  | none => false

/-- An argument as it would be written without quotes. -/
def display (a : Argument) : String :=
  match a.name with
  | some name => name ++ "=" ++ a.value
  | none => a.value

end Argument

structure Call where
  identifier : String
  arguments : List Argument
deriving DecidableEq, Repr

namespace Call

/-- The value of the first argument of a name. -/
def named? (c : Call) (name : String) : Option String :=
  (c.arguments.find? fun a => a.hasName name).map Argument.value

def positionals (c : Call) : List String :=
  (c.arguments.filter fun a => a.name.isNone).map Argument.value

/-- The positional argument of an index, from zero. -/
def positional? (c : Call) (index : Nat) : Option String := c.positionals[index]?

/-- The argument of a name; if there is none, the positional one of an index. -/
def lookup? (c : Call) (name : String) (index : Nat) : Option String :=
  match c.named? name with
  | some v => some v
  | none => c.positional? index

/-- A value read from an argument, with what there is to say about it. -/
structure Reading (α : Type) where
  value : α
  records : List Log.Record

def unreadable (c : Call) (name raw fallback : String) : Log.Record where
  level := .debug
  origin := "mockexpr::expression"
  message := "unparsable expression argument, using default"
  details := [Log.plain "expression" c.identifier, Log.quoted "argument" name,
    Log.quoted "value" raw, Log.plain "default" fallback]

/-- Reads the argument of a name or an index, blanks around it aside. An argument that is
    missing or cannot be read stands for `fallback`, which is spelled `shown` in the log. -/
def read {α : Type} (c : Call) (read? : List Char → Option α) (name : String) (index : Nat)
    (fallback : α) (shown : String) : Reading α :=
  match c.lookup? name index with
  | none => ⟨fallback, []⟩
  | some raw =>
    match read? (trim raw.toList) with
    | some v => ⟨v, []⟩
    | none => ⟨fallback, [c.unreadable name raw shown]⟩

end Call

end Stencil
