import Stencil.Expression.Call
import Stencil.World

/-!
# Expressions

An expression is a named generator of text. It has an identifier and a description, it says
which identifiers it claims, and it answers a call with a text. Answering never fails.
-/

namespace Stencil

open Text

/-- A generated text, the random words that are left, and what there is to say about it. -/
structure Generated where
  value : String
  words : Words
  records : List Log.Record

structure Expression where
  identifier : String
  description : String
  claims : String → Bool
  generate : World → Call → Words → Generated

namespace Expression

/-- An expression that claims its own identifier in any case. -/
def plain (identifier description : String) (generate : World → Call → Words → Generated) :
    Expression :=
  ⟨identifier, description, sameName identifier, generate⟩

/-- An answer that needs no random words and no comment. -/
def fixed (value : String) (words : Words) : Generated := ⟨value, words, []⟩

end Expression

end Stencil
