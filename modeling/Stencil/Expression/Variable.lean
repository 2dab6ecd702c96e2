import Stencil.Expression.Basic

/-!
# Variables of the environment

The value of a variable, where it is set to a text, and else a default. It is the only
expression that looks at the environment, and it looks only at the variable that it names.
-/

namespace Stencil.Variable

open Text

def record (message : String) (details : List Log.Detail) : Log.Record where
  level := .debug
  origin := "mockexpr::expression::environment"
  message := message
  details := details

def isName (name : List Char) : Bool :=
  !name.isEmpty && !name.contains '=' && !name.contains '\x00'

def lookup (world : World) (call : Call) (words : Words) : Generated :=
  let fallback := (call.lookup? "default" 1).getD ""
  match call.lookup? "name" 0 with
  | none => ⟨fallback, words, [record "ENVIRONMENT_VARIABLE without a name argument" []]⟩
  | some given =>
    let name := trim given.toList
    if isName name then
      Expression.fixed ((world.environment.text? (String.ofList name)).getD fallback) words
    else ⟨fallback, words,
      [record "invalid environment variable name" [Log.quoted "name" (String.ofList name)]]⟩

def variableValue : Expression :=
  .plain "ENVIRONMENT_VARIABLE"
    "Value of a process environment variable; arguments: name, default" lookup

end Stencil.Variable
