import Stencil.Yaml.Cursor

/-!
# Tokens

The words of a document. Besides what is written there are tokens for what the indentation
means: the beginning and the end of a block, and the key of a pair.
-/

namespace Stencil.Yaml

inductive Style where
  | plain
  | quoted
  | literal
  | folded
deriving DecidableEq, Repr

inductive Token.Kind where
  | streamEnd
  | version (major minor : Nat)
  | handle (name lead : List Char)
  | documentStart
  | documentEnd
  | blockSequence
  | blockMapping
  | blockEnd
  | flowSequence
  | flowSequenceEnd
  | flowMapping
  | flowMappingEnd
  | entry
  | comma
  | key
  | value
  | alias (name : List Char)
  | anchor (name : List Char)
  | tag (handle suffix : List Char)
  | scalar (style : Style) (text : String)
deriving DecidableEq, Repr

structure Token where
  kind : Token.Kind
  start : Mark
  stop : Mark
deriving DecidableEq, Repr

def Token.between (kind : Token.Kind) (before after : Cursor) : Token :=
  ⟨kind, before.mark, after.mark⟩

end Stencil.Yaml
