import Stencil.Proofs.Escaping

/-!
# Templates without placeholders

A template may hold a placeholder if a closing delimiter lies anywhere behind its first opening one.
This is quickly seen, and it is not exact: the delimiters may be part of an escape, or too far
apart. But where it is denied there is no placeholder, for whatever punctuation and whatever limit.
What is kept along the cutting is that behind an opening delimiter nothing closes (`Scan.Barren`).

Such a template is copied, and only the escapes that were recognised are dropped.
-/

namespace Stencil

open Text

variable {d : Delimiters} {limit : Nat}

theorem mayHoldPlaceholders_eq_false_iff {s : List Char} :
    mayHoldPlaceholders d s = false ↔
      ∀ before after, d.findOpening s = some (before, after) → ¬ d.closing.toList <:+: after := by
  rw [mayHoldPlaceholders]
  cases hopen : d.findOpening s with
  | none => exact ⟨fun _ before after h => (nomatch h), fun _ => rfl⟩
  | some p =>
    obtain ⟨before, after⟩ := p
    simp only [occurs, Option.isSome_eq_false_iff, Option.isNone_iff_eq_none,
      splitFirst_eq_none_iff]
    constructor
    · rintro h _ _ ⟨rfl, rfl⟩
      exact h
    · intro h
      exact h before after rfl

theorem mayHoldPlaceholders_of_not_infix {s : List Char} (h : ¬ d.closing.toList <:+: s) :
    mayHoldPlaceholders d s = false := by
  rw [mayHoldPlaceholders_eq_false_iff]
  intro before after hopen hclose
  apply h
  rw [Delimiters.findOpening_append hopen]
  exact hclose.trans (List.suffix_append _ after).isInfix

namespace Scan

/-- No closing delimiter lies behind an opening one. -/
def Barren (d : Delimiters) : Scan → Prop
  | .text rest => mayHoldPlaceholders d rest = false
  | .inside after => ¬ d.closing.toList <:+: after
  | .done => True

theorem Leaves.barren {after : List Char} {segment : Segment} {s : Scan}
    (h : Leaves d limit after segment s) (hclosing : ¬ d.closing.toList <:+: after) :
    segment.isPlaceholder = false ∧ s.Barren d := by
  -- a delimiter that closed in the window would lie behind the opening one
  have hwindow : d.findClosing (d.window after).1 = none := by
    rw [Delimiters.findClosing_eq_none_iff]
    intro hclose
    apply hclosing
    rw [← d.window_append after]
    exact hclose.trans (List.prefix_append _ _).isInfix
  cases h with
  | closed hclose hlimit => cases hwindow.symm.trans hclose
  | overlong hclose hlimit => cases hwindow.symm.trans hclose
  | @restarted window next hopen hclose hescape =>
    refine ⟨rfl, ?_⟩
    intro hnext
    apply hclosing
    rw [Delimiters.findOpening_append hopen]
    exact hnext.trans (List.suffix_append _ next).isInfix
  | @restartedAtEscape window next kept hopen hclose hescape =>
    refine ⟨rfl, mayHoldPlaceholders_of_not_infix ?_⟩
    intro hnext
    apply hclosing
    rw [Delimiters.findOpening_append hopen, Delimiters.beforeEscape_append hescape,
      List.append_assoc, List.append_assoc, ← List.append_assoc d.escapeText]
    exact hnext.trans (List.suffix_append kept _).isInfix
  | unterminated hopen hclose => exact ⟨rfl, trivial⟩

/-- A step out of a place where nothing closes cuts no placeholder, and leads to such a place. -/
theorem Step.barren {s s' : Scan} {segment : Segment} (h : Step d limit s segment s')
    (hs : s.Barren d) : segment.isPlaceholder = false ∧ s'.Barren d := by
  cases h with
  | rest hne hopen => exact ⟨rfl, trivial⟩
  | escaped hopen hescape =>
    have hafter := mayHoldPlaceholders_eq_false_iff.1 hs _ _ hopen
    exact ⟨rfl, mayHoldPlaceholders_of_not_infix hafter⟩
  | @beforeEscape s before after kept hopen hescape hne =>
    refine ⟨rfl, mayHoldPlaceholders_eq_false_iff.2 ?_⟩
    -- the text that is kept lies in front of the first opening delimiter, which stays the first one
    have hfirst := (Delimiters.findOpening_eq_some_iff.1 hopen).2
    rw [hfirst.split, Delimiters.beforeEscape_append hescape, List.append_assoc,
      List.append_assoc, ← List.append_assoc d.escapeText] at hfirst
    intro before' after' hopen'
    obtain ⟨-, rfl⟩ := hfirst.drop.unique (Delimiters.findOpening_eq_some_iff.1 hopen').2
    exact mayHoldPlaceholders_eq_false_iff.1 hs _ _ hopen
  | beforeOpening hopen hescape hne =>
    exact ⟨rfl, mayHoldPlaceholders_eq_false_iff.1 hs _ _ hopen⟩
  | atOpening hopen hescape hleaves =>
    exact hleaves.barren (mayHoldPlaceholders_eq_false_iff.1 hs _ _ hopen)
  | inside hleaves => exact hleaves.barren hs

theorem not_isPlaceholder_of_mem_segments (s : Scan) (hs : s.Barren d) :
    ∀ segment ∈ segments d limit s, segment.isPlaceholder = false := by
  revert hs
  induction s using run_induction d limit with
  | stop => exact fun _ => List.forall_mem_nil _
  | emptyText => exact fun _ => List.forall_mem_nil _
  | step s segment s' hstep ih =>
    intro hs
    obtain ⟨hsegment, hs'⟩ := hstep.barren hs
    exact List.forall_mem_cons.2 ⟨hsegment, ih hs'⟩

end Scan

/-! ### Templates without escapes -/

theorem flatMap_source_segments (d : Delimiters) (limit : Nat) (t : List Char) :
    (segments d limit t).flatMap (Segment.source d) = t :=
  Scan.flatMap_source_segments d limit (.text t)

/-- Without an escape in front of an opening delimiter, every segment is written as it stands. -/
theorem flatMap_text_segments {t : List Char}
    (h : d.escapeText ≠ [] → ¬ d.escapeText ++ d.opening.toList <:+: t) :
    (segments d limit t).flatMap Segment.text = t := by
  have htext : ∀ s ∈ segments d limit t, s.text = s.source d := by
    intro s hs
    cases s with
    | escaped u =>
      obtain ⟨-, hproper⟩ :=
        Scan.proper_of_mem_segments d limit (.text t) trivial (.escaped u) hs
      obtain rfl : u = d.opening.toList := hproper
      by_cases hescape : d.escapeText = []
      · rw [Segment.source, hescape]
        rfl
      · refine absurd ?_ (h hescape)
        obtain ⟨before, after, hsplit⟩ := List.append_of_mem hs
        have hall := flatMap_source_segments d limit t
        rw [hsplit, List.flatMap_append, List.flatMap_cons, ← List.append_assoc] at hall
        exact ⟨_, _, hall⟩
    | _ => rfl
  calc (segments d limit t).flatMap Segment.text
      = (segments d limit t).flatMap (Segment.source d) := by
        rw [List.flatMap_def, List.flatMap_def, List.map_congr_left htext]
    _ = t := flatMap_source_segments d limit t

/-- **Where a placeholder is denied, there is none.** If no closing delimiter lies behind the first
    opening one, the template is cut into segments that are no placeholders, for whatever limit. So
    nothing is replaced, and no placeholder is left alone for whatever reason; all that the output
    lacks of the template are the escapes in front of escaped delimiters. If no escape lies in front
    of an opening delimiter, the output is the template. -/
theorem render_of_not_mayHoldPlaceholders {e : Engine} {template : String}
    (h : e.mayHoldPlaceholders template = false) :
    (∀ limit, ∀ s ∈ segments e.delimiters limit template.toList, s.isPlaceholder = false) ∧
    ∀ world words,
      (e.render world words template).report.substituted = 0 ∧
      (e.render world words template).report.malformed = 0 ∧
      (e.render world words template).report.skipped = 0 ∧
      (e.render world words template).report.unknown = [] ∧
      template = String.ofList ((segments e.delimiters e.limits.bodyLength
        template.toList).flatMap (Segment.source e.delimiters)) ∧
      (e.render world words template).output = String.ofList ((segments e.delimiters
        e.limits.bodyLength template.toList).flatMap Segment.text) ∧
      ((e.delimiters.escapeText ≠ [] →
          ¬ e.delimiters.escapeText ++ e.delimiters.opening.toList <:+: template.toList) →
        (e.render world words template).output = template) := by
  have hnone : ∀ limit, ∀ s ∈ segments e.delimiters limit template.toList,
      s.isPlaceholder = false := by
    intro limit
    exact Scan.not_isPlaceholder_of_mem_segments (.text template.toList) h
  refine ⟨hnone, ?_⟩
  intro world words
  obtain ⟨houtput, hreport⟩ := Engine.render_of_copied world words (hnone e.limits.bodyLength)
  refine ⟨?_, ?_, ?_, ?_, ?_, houtput, ?_⟩
  iterate 4 rw [hreport]
  · rw [flatMap_source_segments, String.ofList_toList]
  · intro hescape
    rw [houtput, flatMap_text_segments hescape, String.ofList_toList]

/-- A closing delimiter that stands too early, an escape, and a delimiter that nothing closes. -/
theorem render_of_not_mayHoldPlaceholders_early :
    Engine.chooser.mayHoldPlaceholders "a\x7d$$\x7bb" = false ∧
      (Engine.chooser.render ⟨0, ⟨[]⟩⟩ ⟨fun _ => 0, 0⟩ "a\x7d$$\x7bb").output = "a\x7d$\x7bb" ∧
      (Engine.chooser.render ⟨0, ⟨[]⟩⟩ ⟨fun _ => 0, 0⟩ "a\x7d$$\x7bb").report.malformed = 0 ∧
    Engine.chooser.mayHoldPlaceholders "\x7d$\x7b$a" = false ∧
      (Engine.chooser.render ⟨0, ⟨[]⟩⟩ ⟨fun _ => 0, 0⟩ "\x7d$\x7b$a").output = "\x7d$\x7b$a" := by
  have hescaped : Engine.chooser.mayHoldPlaceholders "a\x7d$$\x7bb" = false := by decide +kernel
  have hopen : Engine.chooser.mayHoldPlaceholders "\x7d$\x7b$a" = false := by decide +kernel
  obtain ⟨-, hrender⟩ := render_of_not_mayHoldPlaceholders hescaped
  obtain ⟨-, hmalformed, -, -, -, houtput, -⟩ := hrender ⟨0, ⟨[]⟩⟩ ⟨fun _ => 0, 0⟩
  obtain ⟨-, hrender'⟩ := render_of_not_mayHoldPlaceholders hopen
  obtain ⟨-, -, -, -, -, -, hsame⟩ := hrender' ⟨0, ⟨[]⟩⟩ ⟨fun _ => 0, 0⟩
  refine ⟨hescaped, ?_, hmalformed, hopen, hsame fun _ => by decide +kernel⟩
  rw [houtput]
  decide +kernel

end Stencil
