import Stencil.Text.Quoted

/-!
# Log records

What the library has to say about its work while it works. A record is a value; the functions
that have something to say return their records, and the command line decides which of them
are shown (`Stencil.Log.Filter`).
-/

namespace Stencil.Log

/-- How grave a record is, the least grave first. -/
inductive Level where
  | trace
  | debug
  | info
  | warn
  | error
deriving DecidableEq, Repr

/-- The place of a level in the order of gravity. -/
def Level.rank : Level → Nat
  | .trace => 0
  | .debug => 1
  | .info => 2
  | .warn => 3
  | .error => 4

/-- The name of a level, right-aligned in five columns. -/
def Level.label : Level → String
  | .trace => "TRACE"
  | .debug => "DEBUG"
  | .info => " INFO"
  | .warn => " WARN"
  | .error => "ERROR"

/-- A named detail. A record may have a detail that has no value this time. -/
structure Detail where
  name : String
  value : Option String
deriving DecidableEq, Repr

/-- A detail that is shown as it is. -/
def plain (name value : String) : Detail := ⟨name, some value⟩

/-- A detail that is shown in quotes. -/
def quoted (name value : String) : Detail := ⟨name, some (Text.quote value)⟩

/-- A detail that is shown in quotes if there is something to show. -/
def quoted? (name : String) (value : Option String) : Detail := ⟨name, value.map Text.quote⟩

def count (name : String) (n : Nat) : Detail := ⟨name, some (toString n)⟩

/-- A detail in a line of the log; without a value it is not shown. -/
def Detail.text (d : Detail) : String :=
  match d.value with
  | some value => " " ++ d.name ++ "=" ++ value
  | none => ""

/-- A message with the part of the program it comes from and named details. -/
structure Record where
  level : Level
  origin : String
  message : String
  details : List Detail
deriving DecidableEq, Repr

namespace Record

/-- The names of what a record holds. The message is a part of it like the details. -/
def names (r : Record) : List String := "message" :: r.details.map Detail.name

/-- A record as a line of the log; the origin is shown on demand. -/
def line (showOrigin : Bool) (r : Record) : String :=
  r.level.label ++ " " ++ (if showOrigin then r.origin ++ ": " else "") ++ r.message ++
    String.join (r.details.map Detail.text)

end Record

end Stencil.Log
