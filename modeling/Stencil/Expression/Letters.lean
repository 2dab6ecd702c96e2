import Stencil.Dice
import Stencil.Expression.Basic
import Stencil.Number.Reading

/-!
# Random letters

Texts drawn letter by letter from an alphabet: strings, passwords and mail addresses. The length
of a string or a password is its argument `length`, up to a cap.
-/

namespace Stencil

/-- One of several values; the first is given apart so that there is one. -/
def Words.pick {α : Type} [Dice] (words : Words) (first : α) (others : List α) : α × Words :=
  let (i, words) := Dice.index words (others.length + 1)
  ((first :: others).getD i first, words)

namespace Letters

/-- A non-empty set of letters to draw from. -/
structure Alphabet where
  first : Char
  others : List Char
deriving DecidableEq, Repr

def Alphabet.letters (a : Alphabet) : List Char := a.first :: a.others

/-- The small letters but for `a`, which stands first in every alphabet. -/
def small : List Char := "bcdefghijklmnopqrstuvwxyz".toList

def capital : List Char := "ABCDEFGHIJKLMNOPQRSTUVWXYZ".toList

def digits : List Char := "0123456789".toList

/-- The marks of a password: none that would need quoting. -/
def marks : List Char := "!#$%&*+-=?@^_".toList

def alphanumeric : Alphabet := ⟨'a', small ++ capital ++ digits⟩

def password : Alphabet := ⟨'a', small ++ capital ++ digits ++ marks⟩

def lowerAlphanumeric : Alphabet := ⟨'a', small ++ digits⟩

variable [Dice]

/-- Draws letters one after another, the last one in front. -/
def drawOnto (a : Alphabet) (drawn : List Char) (words : Words) : Nat → List Char × Words
  | 0 => (drawn, words)
  | n + 1 =>
    let (c, words) := words.pick a.first a.others
    drawOnto a (c :: drawn) words n

/-- A number of letters of an alphabet, in the order in which they are drawn. -/
def draw (a : Alphabet) (length : Nat) (words : Words) : List Char × Words :=
  let (drawn, words) := drawOnto a [] words length
  (drawn.reverse, words)

/-! ### Strings and passwords -/

def clampedRecord (call : Call) (requested cap : Nat) : Log.Record where
  level := .debug
  origin := "mockexpr::expression::text"
  message := "length exceeds limit, clamping"
  details := [Log.quoted "expression" call.identifier, Log.count "requested" requested,
    Log.count "max" cap]

/-- Letters of an alphabet, as many as the argument says, up to the cap. -/
def capped (a : Alphabet) (usual cap : Nat) (_ : World) (call : Call) (words : Words) :
    Generated :=
  let length := call.read Number.size? "length" 0 usual (toString usual)
  let (letters, words) := draw a (min length.value cap) words
  ⟨String.ofList letters, words, length.records ++
    if cap < length.value then [clampedRecord call length.value cap] else []⟩

def string (cap : Nat) : Expression :=
  .plain "RANDOM_STRING" "Random alphanumeric string; arguments: length (default 10)"
    (capped alphanumeric 10 cap)

def passphrase (cap : Nat) : Expression :=
  .plain "RANDOM_PASSWORD"
    "Random password of letters, digits and symbols; arguments: length (default 16)"
    (capped password 16 cap)

/-! ### Mail addresses -/

/-- A random mail address in a domain that is reserved for examples. -/
def address (_ : World) (_ : Call) (words : Words) : Generated :=
  let (name, words) := draw lowerAlphanumeric 10 words
  let (domain, words) := words.pick "example.com" ["example.org", "example.net"]
  Expression.fixed (String.ofList name ++ "@" ++ domain) words

def email : Expression :=
  .plain "RANDOM_EMAIL" "Random e-mail address on a reserved example domain" address

end Letters

end Stencil
