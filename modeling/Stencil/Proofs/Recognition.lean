import Stencil.Proofs.Checking
import Stencil.Proofs.Cutting

/-!
# Escapes that are seen

An escape is met in two ways: in text in front of an opening delimiter, and at the end of a window
that nothing has closed, which the cutting then leaves to be read as text. Either way the delimiter
behind it is the first one from the escape on, and this does not depend on the rest of the template.
So one look at the escape with a delimiter behind it tells whether any template can make use of it,
and the check takes this look.
-/

namespace Stencil

open Text

namespace Delimiters

variable {d d' : Delimiters}

/-- An empty delimiter would begin in front of the escape. -/
theorem SeesEscape.opening (h : d.SeesEscape) : d.opening.toList ≠ [] := by
  intro hempty
  have hle := h.first.earliest [] d.escapeText (by simp [hempty])
  exact h.escape (List.length_eq_zero_iff.1 (Nat.le_zero.1 hle))

theorem seesEscape_congr (hopening : d'.opening = d.opening) (hescape : d'.escape = d.escape) :
    d'.SeesEscape ↔ d.SeesEscape := by
  have htext : d'.escapeText = d.escapeText := by rw [escapeText, escapeText, hescape]
  constructor
  · rintro ⟨hne, hfirst⟩
    rw [hopening, htext] at hfirst
    exact ⟨htext ▸ hne, hfirst⟩
  · rintro ⟨hne, hfirst⟩
    rw [← hopening, ← htext] at hfirst
    exact ⟨htext ▸ hne, hfirst⟩

end Delimiters

namespace Scan

variable {d : Delimiters} {limit : Nat}

/-- An escape that is seen makes the delimiter behind it text, whatever comes next. -/
theorem segments_at_escape (hd : d.SeesEscape) (limit : Nat) (rest : List Char) :
    segments d limit (.text (d.escapeText ++ d.opening.toList ++ rest)) =
      .escaped d.opening.toList :: segments d limit (.text rest) := by
  have hopen : d.findOpening (d.escapeText ++ d.opening.toList ++ rest) =
      some (d.escapeText, rest) :=
    Delimiters.findOpening_eq_some_iff.2 ⟨hd.opening, hd.first.append rest⟩
  have hescape : d.beforeEscape d.escapeText = some [] :=
    Delimiters.beforeEscape_eq_some_iff.2 ⟨hd.escape, rfl⟩
  rw [segments_text d limit (by simp [hd.opening]), inText, hopen]
  simp only [hescape]
  rfl

theorem Step.seesEscape {s s' : Scan} {t : List Char} (h : Step d limit s (.escaped t) s') :
    d.SeesEscape := by
  cases h with
  | @escaped s before after hopen hescape =>
    obtain ⟨hne, rfl⟩ := Delimiters.beforeEscape_eq_some_iff.1 hescape
    obtain ⟨-, hfirst⟩ := Delimiters.findOpening_eq_some_iff.1 hopen
    have hs := hfirst.split
    subst hs
    exact ⟨hne, hfirst.of_append⟩
  | atOpening hopen hescape hleaves => cases hleaves
  | inside hleaves => cases hleaves

theorem seesEscape_of_mem_segments {s : Scan} {t : List Char}
    (h : .escaped t ∈ segments d limit s) : d.SeesEscape := by
  revert h
  induction s using run_induction d limit with
  | stop => exact fun h => absurd h List.not_mem_nil
  | emptyText => exact fun h => absurd h List.not_mem_nil
  | step s segment s' hstep ih =>
    intro h
    rcases List.mem_cons.1 h with rfl | h
    · exact hstep.seesEscape
    · exact ih h

end Scan

/-- **An escape is refused exactly if it is of no use.** -/
theorem escape_refused_iff {c : Config} {escape : String} (hopening : c.delimiters.opening ≠ "")
    (hescape : c.delimiters.escape = some escape) :
    (∃ i ∈ c.errors, i.path = "syntax.escape") ↔
      ∀ d : Delimiters, d.opening = c.delimiters.opening → d.escape = c.delimiters.escape →
        ∀ limit template text, .escaped text ∉ segments d limit template := by
  have hopening' : c.delimiters.opening.toList ≠ [] := by simpa using hopening
  have hsees : c.delimiters.escapeIssues ≠ [] ↔ ¬ c.delimiters.SeesEscape := by
    rw [Ne, Delimiters.escapeIssues_eq_nil_iff hopening']
    simp [hescape]
  rw [Config.exists_escape_error_iff, hsees]
  constructor
  · intro hno d hd hd' limit template text hmem
    exact hno ((Delimiters.seesEscape_congr hd hd').1 (Scan.seesEscape_of_mem_segments hmem))
  · intro hnever hd
    refine hnever c.delimiters rfl rfl 0 (c.delimiters.escapeText ++ c.delimiters.opening.toList)
      c.delimiters.opening.toList ?_
    have hsegments := Scan.segments_at_escape hd 0 []
    rw [List.append_nil] at hsegments
    change _ ∈ Scan.segments c.delimiters 0 (.text _)
    rw [hsegments]
    exact List.mem_cons_self

/-- An escape that an opening delimiter begins in. -/
def Config.overlapping : Config :=
  { Config.standard with delimiters := { Delimiters.standard with
      opening := "aba"
      escape := some "ab" } }

theorem escape_refused_overlapping :
    Config.overlapping.delimiters.opening ≠ "" ∧
      Config.overlapping.delimiters.escape = some "ab" ∧
      ∀ limit template text,
        .escaped text ∉ segments Config.overlapping.delimiters limit template := by
  have hopening : Config.overlapping.delimiters.opening ≠ "" := by decide
  have herror : ∃ i ∈ Config.overlapping.errors, i.path = "syntax.escape" := by
    rw [Config.exists_escape_error_iff]
    decide
  exact ⟨hopening, rfl, (escape_refused_iff hopening rfl).1 herror _ rfl rfl⟩

end Stencil
