import Stencil.Proofs.Occurrence
import Stencil.Template.Segment

/-!
# Cutting a template loses nothing

The steps of the cutting as a relation (`Scan.Step`), with the ways out of a placeholder as one of
its own (`Scan.Leaves`): it is closed, it is too long, another opening delimiter comes first with or
without an escape in front of it, or nothing closes it. Everything that is proved about the cutting
of a template is read off these rules: what one step keeps, and from it what a whole run keeps.

Here it is what the segments are made of. Written one behind the other they are the template, and
each of them is what its name says (`Segment.Proper`).
-/

namespace Stencil

open Text

/-! ### The text that belongs to a placeholder -/

/-- What lies behind an opening delimiter, divided at the next one: only in the first part can the
    placeholder be closed. -/
def Delimiters.window (d : Delimiters) (after : List Char) : List Char × List Char :=
  match d.findOpening after with
  | some (window, next) => (window, d.opening.toList ++ next)
  | none => (after, [])

theorem Delimiters.window_append (d : Delimiters) (after : List Char) :
    (d.window after).1 ++ (d.window after).2 = after := by
  unfold window
  cases h : d.findOpening after with
  | none => exact List.append_nil after
  | some p => rw [findOpening_append h, List.append_assoc]

/-- The window holds no opening delimiter. -/
theorem Delimiters.not_infix_window {d : Delimiters} (hd : d.opening.toList ≠ [])
    (after : List Char) : ¬ d.opening.toList <:+: (d.window after).1 := by
  unfold window
  cases h : d.findOpening after with
  | none => exact (findOpening_eq_none_iff.1 h).resolve_left hd
  | some p => exact (findOpening_eq_some_iff.1 h).2.not_infix_before hd

namespace Scan

/-! ### The rules of the cutting -/

section Rules

variable (d : Delimiters) (limit : Nat)

/-- The ways out of a placeholder behind whose opening delimiter `after` lies: what is cut, and
    where the cutting goes on. -/
inductive Leaves (after : List Char) : Segment → Scan → Prop
  | closed {body rest : List Char} (hclose : d.findClosing (d.window after).1 = some (body, rest))
      (hlimit : byteLength body ≤ limit) :
      Leaves after (.placeholder (d.opening.toList ++ body ++ d.closing.toList) body)
        (.text (rest ++ (d.window after).2))
  | overlong {body rest : List Char} (hclose : d.findClosing (d.window after).1 = some (body, rest))
      (hlimit : limit < byteLength body) :
      Leaves after (.literal d.opening.toList) (.text after)
  | restarted {window next : List Char} (hopen : d.findOpening after = some (window, next))
      (hclose : d.findClosing window = none) (hescape : d.beforeEscape window = none) :
      Leaves after (.literal (d.opening.toList ++ window)) (.inside next)
  | restartedAtEscape {window next kept : List Char}
      (hopen : d.findOpening after = some (window, next))
      (hclose : d.findClosing window = none) (hescape : d.beforeEscape window = some kept) :
      Leaves after (.literal (d.opening.toList ++ kept))
        (.text (d.escapeText ++ d.opening.toList ++ next))
  | unterminated (hopen : d.findOpening after = none) (hclose : d.findClosing after = none) :
      Leaves after (.unterminated (d.opening.toList ++ after)) .done

/-- One step of the cutting: where it is, what is cut, and where it goes on. -/
inductive Step : Scan → Segment → Scan → Prop
  | rest {s : List Char} (hne : s ≠ []) (hopen : d.findOpening s = none) :
      Step (.text s) (.literal s) .done
  | escaped {s before after : List Char} (hopen : d.findOpening s = some (before, after))
      (hescape : d.beforeEscape before = some []) :
      Step (.text s) (.escaped d.opening.toList) (.text after)
  | beforeEscape {s before after kept : List Char} (hopen : d.findOpening s = some (before, after))
      (hescape : d.beforeEscape before = some kept) (hne : kept ≠ []) :
      Step (.text s) (.literal kept) (.text (d.escapeText ++ d.opening.toList ++ after))
  | beforeOpening {s before after : List Char} (hopen : d.findOpening s = some (before, after))
      (hescape : d.beforeEscape before = none) (hne : before ≠ []) :
      Step (.text s) (.literal before) (.inside after)
  | atOpening {s after : List Char} {segment : Segment} {next : Scan}
      (hopen : d.findOpening s = some ([], after)) (hescape : d.beforeEscape [] = none)
      (hleaves : Leaves d limit after segment next) : Step (.text s) segment next
  | inside {after : List Char} {segment : Segment} {next : Scan}
      (hleaves : Leaves d limit after segment next) : Step (.inside after) segment next

end Rules

variable {d : Delimiters} {limit : Nat}

theorem leaves_close (limit : Nat) {after body rest : List Char}
    (hclose : d.findClosing (d.window after).1 = some (body, rest)) :
    Leaves d limit after (close d limit after body (rest ++ (d.window after).2)).1.segment
      (close d limit after body (rest ++ (d.window after).2)).2 := by
  simp only [close]
  split
  · next h => exact .overlong hclose h
  · next h => exact .closed hclose (Nat.le_of_not_lt h)

theorem leaves_restart (limit : Nat) {after window next : List Char}
    (hopen : d.findOpening after = some (window, next)) (hclose : d.findClosing window = none) :
    Leaves d limit after (restart d window next).1.segment (restart d window next).2 := by
  simp only [restart]
  split
  · next kept hescape => exact .restartedAtEscape hopen hclose hescape
  · next hescape => exact .restarted hopen hclose hescape

theorem leaves_afterOpening (d : Delimiters) (limit : Nat) (after : List Char) :
    Leaves d limit after (afterOpening d limit after).1.segment
      (afterOpening d limit after).2 := by
  have hwindow : d.window after = match d.findOpening after with
    | some (window, next) => (window, d.opening.toList ++ next)
    | none => (after, []) := rfl
  simp only [afterOpening]
  split
  · next window next hopen =>
    rw [hopen] at hwindow
    split
    · next body rest hclose =>
      have h := leaves_close limit (show d.findClosing (d.window after).1 = some (body, rest) by
        rw [hwindow]; exact hclose)
      rwa [hwindow, ← List.append_assoc] at h
    · next hclose => exact leaves_restart limit hopen hclose
  · next hopen =>
    rw [hopen] at hwindow
    split
    · next body rest hclose =>
      have h := leaves_close limit (show d.findClosing (d.window after).1 = some (body, rest) by
        rw [hwindow]; exact hclose)
      rwa [hwindow, List.append_nil] at h
    · next hclose => exact .unterminated hopen hclose

theorem step_inText (d : Delimiters) (limit : Nat) {s : List Char} (hne : s ≠ []) :
    Step d limit (.text s) (inText d limit s).1.segment (inText d limit s).2 := by
  simp only [inText]
  split
  · next hopen => exact .rest hne hopen
  · next before after hopen =>
    split
    · next hescape => exact .escaped hopen hescape
    · next kept hkept hescape => exact .beforeEscape hopen hescape hkept
    · next hescape =>
      split
      · next hempty =>
        rw [List.isEmpty_iff.1 hempty] at hopen hescape
        exact .atOpening hopen hescape (leaves_afterOpening d limit after)
      · next hempty => exact .beforeOpening hopen hescape (by simpa using hempty)

/-- **Every step of the cutting follows the rules.** -/
theorem step_of_next {s s' : Scan} {c : Cut} (h : next d limit s = some (c, s')) :
    Step d limit s c.segment s' := by
  cases s with
  | text rest =>
    cases rest with
    | nil => exact absurd h (by simp [next])
    | cons a rest =>
      simp only [next, Option.some.injEq] at h
      have := step_inText d limit (List.cons_ne_nil a rest)
      rwa [h] at this
  | inside after =>
    simp only [next, Option.some.injEq] at h
    have := leaves_afterOpening d limit after
    rw [h] at this
    exact .inside this
  | done => exact absurd h (by simp [next])

/-! ### Runs -/

/-- The segments from a place on. -/
def segments (d : Delimiters) (limit : Nat) (s : Scan) : List Segment :=
  (cuts d limit s).map Cut.segment

theorem segments_done (d : Delimiters) (limit : Nat) : segments d limit .done = [] := by
  rw [segments, cuts]
  rfl

theorem segments_of_next {s s' : Scan} {c : Cut} (h : next d limit s = some (c, s')) :
    segments d limit s = c.segment :: segments d limit s' := by
  rw [segments, cuts]
  split
  · next hnone => cases h.symm.trans hnone
  · next c' s'' hsome =>
    obtain ⟨rfl, rfl⟩ := Prod.mk.inj (Option.some.inj (h.symm.trans hsome))
    rfl

theorem segments_of_stop {s : Scan} (h : next d limit s = none) : segments d limit s = [] := by
  rw [segments, cuts]
  split
  · rfl
  · next hsome => cases h.symm.trans hsome

theorem segments_text_nil (d : Delimiters) (limit : Nat) : segments d limit (.text []) = [] :=
  segments_of_stop rfl

theorem segments_text (d : Delimiters) (limit : Nat) {s : List Char} (hne : s ≠ []) :
    segments d limit (.text s) =
      (inText d limit s).1.segment :: segments d limit (inText d limit s).2 := by
  cases s with
  | nil => exact absurd rfl hne
  | cons c s => exact segments_of_next rfl

/-- What the rules of the cutting keep holds of its runs. -/
theorem run_induction (d : Delimiters) (limit : Nat) {motive : Scan → List Segment → Prop}
    (stop : motive .done []) (emptyText : motive (.text []) [])
    (step : ∀ s segment s', Step d limit s segment s' →
      motive s' (segments d limit s') → motive s (segment :: segments d limit s')) (s : Scan) :
    motive s (segments d limit s) := by
  fun_induction cuts d limit s with
  | case1 s hstop =>
    rw [segments_of_stop hstop]
    cases s with
    | done => exact stop
    | inside after => cases hstop
    | text rest =>
      cases rest with
      | nil => exact emptyText
      | cons a rest => cases hstop
  | case2 s c s' hnext ih =>
    rw [segments_of_next hnext]
    exact step s c.segment s' (step_of_next hnext) ih

/-! ### Nothing is lost -/

/-- The part of the template that is not cut yet. -/
def remainder (d : Delimiters) : Scan → List Char
  | .text rest => rest
  | .inside after => d.opening.toList ++ after
  | .done => []

theorem Leaves.source_remainder {after : List Char} {segment : Segment} {s : Scan}
    (h : Leaves d limit after segment s) :
    d.opening.toList ++ after = segment.source d ++ s.remainder d := by
  cases h with
  | closed hclose hlimit =>
    have hall := d.window_append after
    rw [Delimiters.findClosing_append hclose] at hall
    simpa [Segment.source, Segment.text, remainder] using
      congrArg (d.opening.toList ++ ·) hall.symm
  | overlong hclose hlimit => rfl
  | restarted hopen hclose hescape =>
    rw [Delimiters.findOpening_append hopen]
    simp [Segment.source, Segment.text, remainder]
  | restartedAtEscape hopen hclose hescape =>
    rw [Delimiters.findOpening_append hopen, Delimiters.beforeEscape_append hescape]
    simp [Segment.source, Segment.text, remainder]
  | unterminated hopen hclose => exact (List.append_nil _).symm

/-- A step cuts off the front of what is left. -/
theorem Step.source_remainder {s s' : Scan} {segment : Segment} (h : Step d limit s segment s') :
    s.remainder d = segment.source d ++ s'.remainder d := by
  cases h with
  | rest hne hopen => exact (List.append_nil _).symm
  | escaped hopen hescape =>
    have hall := Delimiters.findOpening_append hopen
    rw [Delimiters.beforeEscape_append hescape] at hall
    simpa [Segment.source, remainder] using hall
  | beforeEscape hopen hescape hne =>
    have hall := Delimiters.findOpening_append hopen
    rw [Delimiters.beforeEscape_append hescape] at hall
    simpa [Segment.source, Segment.text, remainder] using hall
  | beforeOpening hopen hescape hne =>
    simpa [Segment.source, Segment.text, remainder] using Delimiters.findOpening_append hopen
  | atOpening hopen hescape hleaves =>
    rw [← hleaves.source_remainder]
    simpa [remainder] using Delimiters.findOpening_append hopen
  | inside hleaves => exact hleaves.source_remainder

theorem flatMap_source_segments (d : Delimiters) (limit : Nat) (s : Scan) :
    (segments d limit s).flatMap (Segment.source d) = s.remainder d := by
  induction s using run_induction d limit with
  | stop => rfl
  | emptyText => rfl
  | step s segment s' hstep ih => rw [List.flatMap_cons, ih, hstep.source_remainder]

end Scan

/-! ### What the segments are -/

/-- What is promised of a segment, besides that it is not empty: an escaped delimiter is the
    opening one; a placeholder has its delimiters around a body that is short enough and holds
    neither of them, except that every body holds a closing delimiter that is empty; and behind
    the opening delimiter of an unclosed placeholder there is no delimiter at all. -/
def Segment.Proper (d : Delimiters) (limit : Nat) : Segment → Prop
  | .literal _ => True
  | .escaped t => t = d.opening.toList
  | .placeholder raw body =>
    raw = d.opening.toList ++ body ++ d.closing.toList ∧ byteLength body ≤ limit ∧
      ¬ d.opening.toList <:+: body ∧ (d.closing.toList ≠ [] → ¬ d.closing.toList <:+: body)
  | .unterminated t =>
    ∃ after, t = d.opening.toList ++ after ∧ ¬ d.opening.toList <:+: after ∧
      ¬ d.closing.toList <:+: after

namespace Scan

variable {d : Delimiters} {limit : Nat}

/-- Behind an opening delimiter there was one that is not empty. -/
def Sound (d : Delimiters) : Scan → Prop
  | .inside _ => d.opening.toList ≠ []
  | _ => True

theorem Leaves.proper {after : List Char} {segment : Segment} {s : Scan}
    (hd : d.opening.toList ≠ []) (h : Leaves d limit after segment s) :
    segment.text ≠ [] ∧ segment.Proper d limit ∧ s.Sound d := by
  cases h with
  | @closed body rest hclose hlimit =>
    have hfirst := Delimiters.findClosing_eq_some_iff.1 hclose
    have hbody : body <:+: (d.window after).1 :=
      ⟨[], d.closing.toList ++ rest, by rw [hfirst.split]; simp⟩
    refine ⟨by simp [Segment.text, hd], ⟨rfl, hlimit, ?_, ?_⟩, trivial⟩
    · intro hopen
      exact d.not_infix_window hd after (hopen.trans hbody)
    · exact hfirst.not_infix_before
  | overlong hclose hlimit => exact ⟨hd, trivial, trivial⟩
  | restarted hopen hclose hescape => exact ⟨by simp [Segment.text, hd], trivial, hd⟩
  | restartedAtEscape hopen hclose hescape => exact ⟨by simp [Segment.text, hd], trivial, trivial⟩
  | unterminated hopen hclose =>
    have hnone := (Delimiters.findOpening_eq_none_iff.1 hopen).resolve_left hd
    exact ⟨by simp [Segment.text, hd],
      ⟨after, rfl, hnone, Delimiters.findClosing_eq_none_iff.1 hclose⟩, trivial⟩

/-- What a step cuts is proper, and only a delimiter that is not empty is ever passed. -/
theorem Step.proper {s s' : Scan} {segment : Segment} (h : Step d limit s segment s')
    (hs : s.Sound d) : segment.text ≠ [] ∧ segment.Proper d limit ∧ s'.Sound d := by
  cases h with
  | rest hne hopen => exact ⟨hne, trivial, trivial⟩
  | escaped hopen hescape =>
    exact ⟨(Delimiters.findOpening_eq_some_iff.1 hopen).1, rfl, trivial⟩
  | beforeEscape hopen hescape hne => exact ⟨hne, trivial, trivial⟩
  | beforeOpening hopen hescape hne =>
    exact ⟨hne, trivial, (Delimiters.findOpening_eq_some_iff.1 hopen).1⟩
  | atOpening hopen hescape hleaves =>
    exact hleaves.proper (Delimiters.findOpening_eq_some_iff.1 hopen).1
  | inside hleaves => exact hleaves.proper hs

theorem proper_of_mem_segments (d : Delimiters) (limit : Nat) (s : Scan) (hs : s.Sound d) :
    ∀ segment ∈ segments d limit s, segment.text ≠ [] ∧ segment.Proper d limit := by
  revert hs
  induction s using run_induction d limit with
  | stop => exact fun _ => List.forall_mem_nil _
  | emptyText => exact fun _ => List.forall_mem_nil _
  | step s segment s' hstep ih =>
    intro hs
    obtain ⟨hne, hproper, hs'⟩ := hstep.proper hs
    exact List.forall_mem_cons.2 ⟨⟨hne, hproper⟩, ih hs'⟩

theorem Leaves.done_of_unterminated {after t : List Char} {s : Scan}
    (h : Leaves d limit after (.unterminated t) s) : s = .done := by
  cases h
  rfl

theorem Step.done_of_unterminated {s s' : Scan} {t : List Char}
    (h : Step d limit s (.unterminated t) s') : s' = .done := by
  cases h with
  | atOpening hopen hescape hleaves => exact hleaves.done_of_unterminated
  | inside hleaves => exact hleaves.done_of_unterminated

theorem nothing_after_unterminated (d : Delimiters) (limit : Nat) (s : Scan)
    {before after : List Segment} {t : List Char}
    (h : segments d limit s = before ++ .unterminated t :: after) : after = [] := by
  revert before
  induction s using run_induction d limit with
  | stop =>
    intro before h
    simp at h
  | emptyText =>
    intro before h
    simp at h
  | step s segment s' hstep ih =>
    intro before h
    cases before with
    | nil =>
      obtain ⟨rfl, hafter⟩ := List.cons.inj h
      rw [← hafter, hstep.done_of_unterminated, segments_done]
    | cons first before => exact ih (List.cons.inj h).2

end Scan

/-- **Cutting loses nothing.** For any punctuation and any limit, the segments written one behind
    the other, with the escape in front of every escaped delimiter, are the template. None of them
    is empty, each of them is what it is called, and nothing comes behind an unclosed
    placeholder. -/
theorem segments_lossless (d : Delimiters) (limit : Nat) (template : List Char) :
    (segments d limit template).flatMap (Segment.source d) = template ∧
    (∀ segment ∈ segments d limit template,
      segment.text ≠ [] ∧ segment.Proper d limit) ∧
    ∀ before t after, segments d limit template = before ++ .unterminated t :: after →
      after = [] :=
  ⟨Scan.flatMap_source_segments d limit (.text template),
    Scan.proper_of_mem_segments d limit (.text template) trivial,
    fun _ _ _ h => Scan.nothing_after_unterminated d limit (.text template) h⟩

end Stencil
