import Stencil.Expression.Letters

/-!
# Random choices

One of two truth values, an identifier of its own, or one of the values that the call lists: its
positional arguments, or the parts of its argument `values` between vertical bars.
-/

namespace Stencil.Choice

variable [Dice]

def truth (_ : World) (_ : Call) (words : Words) : Generated :=
  let (value, words) := Dice.truth words
  Expression.fixed (toString value) words

def boolean : Expression := .plain "RANDOM_BOOLEAN" "Random boolean (true or false)" truth

def unique (_ : World) (_ : Call) (words : Words) : Generated :=
  let (value, words) := Dice.uuid words
  Expression.fixed value words

def uuid : Expression := .plain "RANDOM_UUID" "Random version 4 UUID" unique

/-- The parts of a text between vertical bars. -/
def parts (list : String) : List String := (list.toList.splitOn '|').map String.ofList

def values (call : Call) : List String :=
  match call.positionals with
  | [] => ((call.named? "values").map parts).getD []
  | given => given

/-- One of the values; without any it is the empty text. -/
def ofValues (_ : World) (call : Call) (words : Words) : Generated :=
  match values call with
  | [] => Expression.fixed "" words
  | first :: others =>
    let (value, words) := words.pick first others
    Expression.fixed value words

def enumeration : Expression :=
  .plain "RANDOM_ENUM"
    "One of the given values; arguments: positional values or values=\"A|B|C\"" ofValues

end Stencil.Choice
