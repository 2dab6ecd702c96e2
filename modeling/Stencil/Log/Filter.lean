import Stencil.Log.Directive

/-!
# Log filters

A filter is a list of directives separated by commas. Of the directives that speak of a record,
the most special one decides whether it is shown; of two that are equally special, the later
one. A record of which none speaks is not shown.
-/

namespace Stencil.Log

abbrev Filter := List Directive

namespace Filter

def atLevel (level : Level) : Filter := [(Subject.ofOrigin none).directive (.from level)]

/-- Reads a filter. A filter without directives lets errors through and nothing else. -/
def read? (text : String) : Option Filter :=
  let parts := (text.toList.splitOn ',').filter (!·.isEmpty)
  if parts.isEmpty then some (atLevel .error) else parts.mapM Directive.read?

/-- The more special of two directives, of which the first stands in front. -/
def better (best : Option Directive) (d : Directive) : Option Directive :=
  match best with
  | none => some d
  | some b => if d.atLeast b then some d else some b

def deciding? (f : Filter) (r : Record) : Option Directive :=
  (f.filter fun d => d.concerns r).foldl better none

def shows (f : Filter) (r : Record) : Bool :=
  match f.deciding? r with
  | some d => d.threshold.allows r.level
  | none => false

end Filter

end Stencil.Log
