import Stencil.Text.Blank

/-!
# The mode of a pattern

A pattern is a regular expression. Letters in the head of a group switch how the rest of the
group is read; the three that decide whether it can be read are kept in a `Mode`. Patterns are
read without tables of the character standard: over characters nothing is known of their cases,
of digits and words, or of the edges of words. Over bytes all of this is known for ASCII, but a
pattern must not take a character apart.
-/

namespace Stencil.Pattern

structure Mode where
  /-- Over characters; otherwise over bytes. -/
  overChars : Bool
  /-- Without regard to case. -/
  caseless : Bool
  /-- Blanks, and comments behind a hash, say nothing. -/
  spaced : Bool
deriving DecidableEq, Repr

namespace Mode

def usual : Mode := ⟨true, false, false⟩

/-- The text behind blanks and comments; a comment ends with its line. -/
def skipFrom (inComment : Bool) : List Char → List Char
  | [] => []
  | c :: r =>
    if inComment then skipFrom (c != '\n') r
    else if Text.isBlank c then skipFrom false r
    else if c == '#' then skipFrom true r
    else c :: r

def skip (m : Mode) (s : List Char) : List Char := if m.spaced then skipFrom false s else s

/-- Whether a minus in front of this text stands between the ends of a range, and not in front of
    another minus or at the end of its class. Here the first words of a comment are looked at
    as well. -/
def startsRangeEnd (m : Mode) (s : List Char) : Bool :=
  let next :=
    if m.spaced then
      match Text.trimLeft s with
      | '#' :: r => (Text.trimLeft r).head?
      | r => r.head?
    else s.head?
  next != some ']' && next != some '-'

/-- Whether a character may stand for itself; `byte` says that it is written as a byte. -/
def allowsChar (m : Mode) (c : Char) (byte : Bool) : Bool :=
  if m.overChars then !m.caseless else !byte || c.toNat < 0x80

/-- Whether a character may be a member of a class. -/
def allowsMember (m : Mode) (c : Char) : Bool :=
  if m.overChars then !m.caseless else c.toNat < 0x80

/-- Whether a class may be written by its name, or as all that is not in it. -/
def allowsNamed (m : Mode) (negated : Bool) : Bool :=
  if m.overChars then !m.caseless else !negated

/-- Whether the digits, the blanks or the word characters may be meant, or all but them. -/
def allowsKind (m : Mode) (negated : Bool) : Bool := !m.overChars && !negated

def allowsWordEdge (m : Mode) : Bool := !m.overChars

/-- Whether letters and at most one minus can switch a mode: each at most once, and the minus
    not at the end. -/
def areSwitches (letters : List Char) : Bool :=
  letters.all ("imsUuRx-".toList.contains ·) && letters.eraseDups.length == letters.length &&
    letters.getLast? != some '-'

/-- The mode with the letters in front of a minus switched on and those behind it off. -/
def switch (m : Mode) (letters : List Char) : Mode :=
  let on := letters.takeWhile (· != '-')
  let off := letters.dropWhile (· != '-')
  let state (old : Bool) (c : Char) : Bool := on.contains c || (old && !off.contains c)
  ⟨state m.overChars 'u', state m.caseless 'i', state m.spaced 'x'⟩

end Mode

end Stencil.Pattern
