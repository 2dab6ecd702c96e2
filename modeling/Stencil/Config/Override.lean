import Stencil.Config.Basic
import Stencil.Config.Error
import Stencil.Number.Reading
import Stencil.Text.Blank

/-!
# Overrides

Three fields of a configuration can be replaced by variables of the environment. The variables
are read in a fixed order, and the first one that is set to anything but a natural number ends
the reading; what was replaced before stays replaced.
-/

namespace Stencil

open Text

/-- A variable and the field that it replaces. -/
structure Override where
  name : String
  field : String
  set : Nat → Config → Config

namespace Override

def expansions : Override :=
  ⟨"MOCKEXPR_MAX_EXPANSIONS", "max_expansions",
    fun n c => { c with limits := { c.limits with expansions := n } }⟩

def bodyLength : Override :=
  ⟨"MOCKEXPR_MAX_PLACEHOLDER_LENGTH", "max_placeholder_length",
    fun n c => { c with limits := { c.limits with bodyLength := n } }⟩

def stringLength : Override :=
  ⟨"MOCKEXPR_MAX_STRING_LENGTH", "max_string_length",
    fun n c => { c with settings := { c.settings with stringLength := n } }⟩

def all : List Override := [expansions, bodyLength, stringLength]

/-- The number that a variable is set to, blanks around it aside. -/
def value? (text : String) : Option Nat := Number.size? (trim text.toList)

/-- The error of a variable that is set to no number. -/
def badValue (o : Override) (text : String) : ConfigError :=
  .badValue o.name text "a non-negative integer"

def record (o : Override) (n : Nat) : Log.Record where
  level := .debug
  origin := "mockexpr::config::loader"
  message := o.field ++ " overridden from environment"
  details := [Log.count "value" n]

end Override

/-- A configuration with overrides, the records of them, and the error that ended them. -/
structure Overridden where
  config : Config
  records : List Log.Record
  error : Option ConfigError

def Config.overriddenBy (value? : String → Option String) (c : Config) :
    List Override → Overridden
  | [] => ⟨c, [], none⟩
  | o :: rest =>
    match value? o.name with
    | none => c.overriddenBy value? rest
    | some text =>
      match Override.value? text with
      | none => ⟨c, [], some (o.badValue text)⟩
      | some n =>
        let more := (o.set n c).overriddenBy value? rest
        { more with records := o.record n :: more.records }

def Config.overridden (value? : String → Option String) (c : Config) : Overridden :=
  c.overriddenBy value? Override.all

end Stencil
