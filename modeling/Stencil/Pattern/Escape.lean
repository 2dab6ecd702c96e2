import Stencil.Number.Reading
import Stencil.Pattern.Mode

/-!
# Escapes in a pattern

What a backslash and the characters behind it mean. Of the letters and digits only those listed
here mean something; every other ASCII character stands for itself.
-/

namespace Stencil.Pattern

inductive Escape where
  /-- A character; `byte` says that it is written as a byte. -/
  | char (c : Char) (byte : Bool)
  /-- The digits, the blanks or the word characters, or all but them. -/
  | kind (negated : Bool)
  /-- The beginning or the end of the text. -/
  | textEdge
  /-- The edge of a word, or any place that is none. -/
  | wordEdge
deriving DecidableEq, Repr

/-- The value of so many hexadecimal digits behind those of `value`. -/
def hexDigits? (m : Mode) : (count value : Nat) → List Char → Option (Nat × List Char)
  | 0, value, s => some (value, s)
  | count + 1, value, s =>
    match m.skip s with
    | [] => none
    | c :: r => (Number.digit? 16 c).bind fun d => hexDigits? m count (16 * value + d) r

/-- Reads a character that is written as a number of so many digits. -/
def hexChar? (m : Mode) (count : Nat) (s : List Char) : Option (Char × List Char) :=
  (hexDigits? m count 0 s).bind fun (n, r) =>
    if n.isValidChar then some (Char.ofNat n, r) else none

def lettered : List (Char × Char) :=
  [('a', '\x07'), ('f', '\x0c'), ('t', '\t'), ('n', '\n'), ('r', '\r'), ('v', '\x0b')]

def escape? (m : Mode) : List Char → Option (Escape × List Char)
  | [] => none
  | 'x' :: r => (hexChar? m 2 r).map fun (c, r) => (.char c true, r)
  | 'u' :: r => (hexChar? m 4 r).map fun (c, r) => (.char c false, r)
  | 'U' :: r => (hexChar? m 8 r).map fun (c, r) => (.char c false, r)
  | c :: r =>
    match lettered.lookup c with
    | some meant => some (.char meant false, r)
    | none =>
      if ['d', 's', 'w'].contains c then some (.kind false, r)
      else if ['D', 'S', 'W'].contains c then some (.kind true, r)
      else if ['A', 'z'].contains c then some (.textEdge, r)
      else if ['b', 'B', '<', '>'].contains c then some (.wordEdge, r)
      else if c.isAlphanum || 0x80 ≤ c.toNat then none
      else some (.char c false, r)

/-- Whether an escape may stand outside a class. -/
def Escape.isAllowed (m : Mode) : Escape → Bool
  | .char c byte => m.allowsChar c byte
  | .kind negated => m.allowsKind negated
  | .textEdge => true
  | .wordEdge => m.allowsWordEdge

end Stencil.Pattern
