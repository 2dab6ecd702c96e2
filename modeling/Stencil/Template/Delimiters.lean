import Stencil.Text.Search

/-!
# Delimiters

The punctuation of a placeholder: the delimiters around it, the brackets and the separator of
its arguments, and the escape that makes an opening delimiter plain text. Any choice can be
used, also one that no check has passed; `Stencil.Config.Check` says which choices make sense.
-/

namespace Stencil

open Text

structure Delimiters where
  /-- Opens a placeholder. -/
  opening : String
  /-- Closes a placeholder. -/
  closing : String
  /-- Opens the arguments. -/
  argsOpen : Char
  /-- Closes the arguments. -/
  argsClose : Char
  /-- Stands between two arguments. -/
  separator : Char
  /-- Makes an opening delimiter behind it plain text, if there is one. -/
  escape : Option String
deriving DecidableEq, Repr

namespace Delimiters

/-- The usual punctuation: `${NAME(a, b)}`, with `$${` for a plain `${`. -/
def standard : Delimiters := ⟨"$\x7b", "\x7d", '(', ')', ',', some "$"⟩

/-- What lies before and behind the first opening delimiter. An empty delimiter is nowhere. -/
def findOpening (d : Delimiters) (s : List Char) : Option (List Char × List Char) :=
  if d.opening.toList.isEmpty then none else splitFirst d.opening.toList s

/-- What lies before and behind the first closing delimiter. An empty one is everywhere. -/
def findClosing (d : Delimiters) (s : List Char) : Option (List Char × List Char) :=
  splitFirst d.closing.toList s

/-- The escape as characters; without an escape, or with an empty one, there are none. -/
def escapeText (d : Delimiters) : List Char := (d.escape.getD "").toList

/-- What lies before the escape at the end of a text. -/
def beforeEscape (d : Delimiters) (s : List Char) : Option (List Char) :=
  if d.escapeText.isEmpty then none
  else if d.escapeText.isSuffixOf s then some (s.take (s.length - d.escapeText.length))
  else none

/-! ### The pieces put together again -/

theorem findOpening_append {d : Delimiters} {s before after : List Char}
    (h : d.findOpening s = some (before, after)) :
    s = before ++ d.opening.toList ++ after := by
  simp only [findOpening] at h
  split at h
  · exact absurd h (by simp)
  · exact splitFirst_append h

theorem opening_pos_of_findOpening {d : Delimiters} {s before after : List Char}
    (h : d.findOpening s = some (before, after)) : 0 < d.opening.toList.length := by
  simp only [findOpening] at h
  split at h
  · exact absurd h (by simp)
  · next hne => exact List.length_pos_iff.2 (by simpa using hne)

theorem findClosing_append {d : Delimiters} {s before after : List Char}
    (h : d.findClosing s = some (before, after)) :
    s = before ++ d.closing.toList ++ after := splitFirst_append h

theorem beforeEscape_append {d : Delimiters} {s kept : List Char}
    (h : d.beforeEscape s = some kept) : s = kept ++ d.escapeText := by
  simp only [beforeEscape] at h
  split at h
  · exact absurd h (by simp)
  · split at h
    · next hsuffix =>
      have hall := List.suffix_iff_eq_append.1 (List.isSuffixOf_iff_suffix.1 hsuffix)
      rw [← Option.some.inj h, hall]
    · exact absurd h (by simp)

end Delimiters

end Stencil
