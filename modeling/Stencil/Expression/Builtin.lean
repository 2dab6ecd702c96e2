import Stencil.Config.Basic
import Stencil.Expression.Bounds
import Stencil.Expression.Choice
import Stencil.Expression.Registry
import Stencil.Expression.Time
import Stencil.Expression.Variable
import Stencil.Template.Engine

/-!
# Built-in expressions

The expressions that every engine made from a configuration has, in their order. The one that
reads the environment is there only if the settings allow it.
-/

namespace Stencil

variable [Dice]

def Expression.builtins (s : Settings) : List Expression :=
  [Time.date, Time.dateTime, Time.timestamp, Bounds.integer32, Bounds.integer64,
    Bounds.decimalNumber, Choice.boolean, Choice.uuid, Letters.string s.stringLength,
    Letters.passphrase s.stringLength, Letters.email, Choice.enumeration] ++
  if s.environment then [Variable.variableValue] else []

def Registry.builtin (s : Settings) : Except RegistryError Registry :=
  Registry.empty.registerAll (Expression.builtins s)

/-- The engine with the built-in expressions that a configuration describes. -/
def Engine.ofConfig (c : Config) : Except RegistryError Engine :=
  match Registry.builtin c.settings with
  | .ok registry => .ok ⟨registry, c.delimiters, c.limits⟩
  | .error error => .error error

end Stencil
