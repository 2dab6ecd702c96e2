import Stencil.Template.Delimiters

/-!
# Configurations

What a user can choose: the punctuation of placeholders, the limits of one render, and the
settings of the built-in expressions.
-/

namespace Stencil

structure Limits where
  /-- So many placeholders are replaced; later ones are copied. -/
  expansions : Nat
  /-- The greatest length of a placeholder's body in bytes. -/
  bodyLength : Nat
deriving DecidableEq, Repr

structure Settings where
  /-- The greatest length of a random string or password. -/
  stringLength : Nat
  environment : Bool
deriving DecidableEq, Repr

structure Config where
  delimiters : Delimiters
  limits : Limits
  settings : Settings
deriving DecidableEq, Repr

def Limits.standard : Limits := ⟨10000, 1024⟩

def Settings.standard : Settings := ⟨4096, false⟩

def Config.standard : Config := ⟨.standard, .standard, .standard⟩

end Stencil
