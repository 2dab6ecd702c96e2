/-!
# Issues

What a check of a configuration finds: at which field, what, and how bad it is. An error makes
the configuration unusable, a warning does not.
-/

namespace Stencil

inductive Severity where
  | error
  | warning
deriving DecidableEq, Repr

def Severity.label : Severity → String
  | .error => "error"
  | .warning => "warning"

structure Issue where
  path : String
  message : String
  severity : Severity
deriving DecidableEq, Repr

namespace Issue

def error (path message : String) : Issue := ⟨path, message, .error⟩

def warning (path message : String) : Issue := ⟨path, message, .warning⟩

def isError (i : Issue) : Bool := i.severity == .error

def display (i : Issue) : String := i.severity.label ++ ": " ++ i.message ++ " at " ++ i.path

end Issue

def Issue.onlyIf (condition : Bool) (i : Issue) : List Issue := if condition then [i] else []

end Stencil
