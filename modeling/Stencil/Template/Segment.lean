import Stencil.Template.Delimiters

/-!
# Segments

A template is cut into segments from left to right: literal text, opening delimiters that are
escaped, placeholders, and at the end perhaps an opening delimiter that nothing closes. An
opening delimiter inside an unclosed placeholder starts again, so no body holds one; a body
that is too long leaves its opening delimiter as literal text.

The cutting is in one of three places (`Scan`): in text, behind an opening delimiter, or at the
end. Every step moves on (`weight_next_lt`), so that the list of all cuts exists.
-/

namespace Stencil

open Text

inductive Segment where
  /-- Text to be copied. -/
  | literal (text : List Char)
  /-- An opening delimiter to be copied; the escape in front of it is dropped. -/
  | escaped (delimiter : List Char)
  /-- A closed placeholder: all of it, and what stands between its delimiters. -/
  | placeholder (raw body : List Char)
  /-- An opening delimiter that nothing closes, with the rest of the template. -/
  | unterminated (text : List Char)
deriving DecidableEq, Repr

/-- A segment as text, where a placeholder stands for itself. -/
def Segment.text : Segment → List Char
  | .literal t => t
  | .escaped t => t
  | .placeholder raw _ => raw
  | .unterminated t => t

/-- A segment as it is written in the template. -/
def Segment.source (d : Delimiters) : Segment → List Char
  | .escaped t => d.escapeText ++ t
  | s => s.text

/-- A segment together with the length of the body that was too long, where that is what made
    it literal text. -/
structure Cut where
  segment : Segment
  overlong : Option Nat
deriving DecidableEq, Repr

inductive Scan where
  /-- In text, with this much of the template left. -/
  | text (rest : List Char)
  /-- Behind an opening delimiter. -/
  | inside (after : List Char)
  /-- At the end. -/
  | done
deriving DecidableEq, Repr

namespace Scan

/-- An upper bound on the number of steps that are left. -/
def weight : Scan → Nat
  | .text rest => rest.length
  | .inside after => after.length + 1
  | .done => 0

/-- A cut that nothing has to be said about. -/
def cut (s : Segment) (next : Scan) : Cut × Scan := (⟨s, none⟩, next)

/-- The cut behind an opening delimiter that has another one before anything closes it: all up
    to the other one is text, and an escape in front of the other one stays with it. -/
def restart (d : Delimiters) (window next : List Char) : Cut × Scan :=
  match d.beforeEscape window with
  | some kept =>
    cut (.literal (d.opening.toList ++ kept)) (.text (d.escapeText ++ d.opening.toList ++ next))
  | none => cut (.literal (d.opening.toList ++ window)) (.inside next)

/-- The cut at a closing delimiter: a placeholder, unless its body is too long. -/
def close (d : Delimiters) (limit : Nat) (after body rest : List Char) : Cut × Scan :=
  let length := byteLength body
  if limit < length then (⟨.literal d.opening.toList, some length⟩, .text after)
  else cut (.placeholder (d.opening.toList ++ body ++ d.closing.toList) body) (.text rest)

/-- The cut behind an opening delimiter. -/
def afterOpening (d : Delimiters) (limit : Nat) (after : List Char) : Cut × Scan :=
  match d.findOpening after with
  | some (window, next) =>
    match d.findClosing window with
    | some (body, rest) => close d limit after body (rest ++ d.opening.toList ++ next)
    | none => restart d window next
  | none =>
    match d.findClosing after with
    | some (body, rest) => close d limit after body rest
    | none => cut (.unterminated (d.opening.toList ++ after)) .done

/-- The cut in text that is not empty. -/
def inText (d : Delimiters) (limit : Nat) (rest : List Char) : Cut × Scan :=
  match d.findOpening rest with
  | none => cut (.literal rest) .done
  | some (before, after) =>
    match d.beforeEscape before with
    | some [] => cut (.escaped d.opening.toList) (.text after)
    | some kept => cut (.literal kept) (.text (d.escapeText ++ d.opening.toList ++ after))
    | none =>
      if before.isEmpty then afterOpening d limit after
      else cut (.literal before) (.inside after)

/-- The next cut and the place behind it, unless the template is at its end. -/
def next (d : Delimiters) (limit : Nat) : Scan → Option (Cut × Scan)
  | .text [] => none
  | .text (c :: rest) => some (inText d limit (c :: rest))
  | .inside after => some (afterOpening d limit after)
  | .done => none

/-! ### Every step moves on -/

theorem weight_restart {d : Delimiters} {after window next : List Char}
    (h : d.findOpening after = some (window, next)) :
    (restart d window next).2.weight ≤ after.length := by
  have hpos := Delimiters.opening_pos_of_findOpening h
  have hall := congrArg List.length (Delimiters.findOpening_append h)
  simp only [List.length_append] at hall
  simp only [restart]
  split
  · next kept hk =>
    have hw := congrArg List.length (Delimiters.beforeEscape_append hk)
    simp only [List.length_append] at hw
    simp only [cut, weight, List.length_append]
    omega
  · simp only [cut, weight]
    omega

theorem weight_close {d : Delimiters} {limit : Nat} {after body rest : List Char}
    (h : rest.length ≤ after.length) :
    (close d limit after body rest).2.weight ≤ after.length := by
  simp only [close]
  split
  · exact Nat.le_refl _
  · exact h

theorem weight_afterOpening (d : Delimiters) (limit : Nat) (after : List Char) :
    (afterOpening d limit after).2.weight ≤ after.length := by
  simp only [afterOpening]
  split
  · next window next hopen =>
    split
    · next body rest hclose =>
      apply weight_close
      have h₁ := congrArg List.length (Delimiters.findOpening_append hopen)
      have h₂ := congrArg List.length (Delimiters.findClosing_append hclose)
      simp only [List.length_append] at h₁ h₂ ⊢
      omega
    · exact weight_restart hopen
  · split
    · next body rest hclose =>
      apply weight_close
      have h := congrArg List.length (Delimiters.findClosing_append hclose)
      simp only [List.length_append] at h
      omega
    · exact Nat.zero_le _

theorem weight_inText (d : Delimiters) (limit : Nat) {rest : List Char} (hne : rest ≠ []) :
    (inText d limit rest).2.weight < rest.length := by
  have hrest := List.length_pos_iff.2 hne
  simp only [inText]
  split
  · exact hrest
  · next before after hopen =>
    have hpos := Delimiters.opening_pos_of_findOpening hopen
    have hall := congrArg List.length (Delimiters.findOpening_append hopen)
    simp only [List.length_append] at hall
    split
    · simp only [cut, weight]
      omega
    · next kept hkept hk =>
      have hkpos := List.length_pos_iff.2 hkept
      have hw := congrArg List.length (Delimiters.beforeEscape_append hk)
      simp only [List.length_append] at hw
      simp only [cut, weight, List.length_append]
      omega
    · split
      · have := weight_afterOpening d limit after
        omega
      · next hb =>
        have := List.length_pos_iff.2 (mt List.isEmpty_iff.2 hb)
        simp only [cut, weight]
        omega

theorem weight_next_lt {d : Delimiters} {limit : Nat} {s : Scan} {c : Cut} {s' : Scan}
    (h : next d limit s = some (c, s')) : s'.weight < s.weight := by
  cases s with
  | text rest =>
    cases rest with
    | nil => exact absurd h (by simp [next])
    | cons a rest =>
      simp only [next, Option.some.injEq] at h
      have := weight_inText d limit (List.cons_ne_nil a rest)
      rw [h] at this
      exact this
  | inside after =>
    simp only [next, Option.some.injEq] at h
    have := weight_afterOpening d limit after
    rw [h] at this
    exact Nat.lt_succ_of_le this
  | done => exact absurd h (by simp [next])

/-- All cuts from a place on. -/
def cuts (d : Delimiters) (limit : Nat) (s : Scan) : List Cut :=
  match _h : next d limit s with
  | none => []
  | some (c, s') => c :: cuts d limit s'
termination_by s.weight
decreasing_by exact weight_next_lt _h

end Scan

/-- The cuts of a template, with at most `limit` bytes in the body of a placeholder. -/
def cuts (d : Delimiters) (limit : Nat) (template : List Char) : List Cut :=
  Scan.cuts d limit (.text template)

/-- The segments of a template, with at most `limit` bytes in the body of a placeholder. -/
def segments (d : Delimiters) (limit : Nat) (template : List Char) : List Segment :=
  (cuts d limit template).map Cut.segment

/-- Whether a template may hold a placeholder: an opening delimiter with a closing one anywhere
    behind it. -/
def mayHoldPlaceholders (d : Delimiters) (template : List Char) : Bool :=
  match d.findOpening template with
  | some (_, after) => occurs d.closing.toList after
  | none => false

end Stencil
