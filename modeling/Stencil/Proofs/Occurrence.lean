import Mathlib.Data.List.Basic
import Stencil.Template.Delimiters

/-!
# First occurrences

What a search finds, said without the search: `FirstAt needle s before after` holds where `needle`
lies in `s` behind `before`, and nowhere earlier. The searches of `Stencil.Text.Search` decide it
(`splitFirst_eq_some_iff`, `splitFirst_eq_none_iff`), and all that the theory of templates needs to
know about overlaps follows from it: a first occurrence stays the first one when text in front of
it is dropped (`FirstAt.drop`), and it moves on when a character is put in front (`FirstAt.cons`).
-/

namespace Stencil.Text

variable {needle s before after : List Char}

/-! ### Around one character -/

/-- A text lies on one side of a character that it does not hold. -/
theorem infix_append_cons {c : Char} {l r : List Char} (hc : c ∉ needle)
    (h : needle <:+: l ++ c :: r) : needle <:+: l ∨ needle <:+: r := by
  rcases List.infix_append_iff.1 h with h | h | ⟨u, v, rfl, hu, hv⟩
  · exact .inl h
  · rcases List.infix_cons_iff.1 h with h | h
    · rcases List.prefix_cons_iff.1 h with rfl | ⟨v, rfl, -⟩
      · exact .inl List.nil_infix
      · exact absurd List.mem_cons_self hc
    · exact .inr h
  · rcases List.prefix_cons_iff.1 hv with rfl | ⟨v, rfl, -⟩
    · rw [List.append_nil]
      exact .inl hu.isInfix
    · exact absurd (List.mem_append_right u List.mem_cons_self) hc

/-- A text through the only place of a character lies around that place. -/
theorem suffix_and_prefix_of_infix {c : Char} {u v l r : List Char} (hl : c ∉ l) (hr : c ∉ r)
    (h : u ++ c :: v <:+: l ++ c :: r) : u <:+ l ∧ v <+: r := by
  obtain ⟨p, q, hpq⟩ := h
  rw [List.append_assoc, List.append_assoc, ← List.append_assoc, List.cons_append, eq_comm,
    List.append_cons_inj_of_notMem hl hr] at hpq
  obtain ⟨hu, -, hv⟩ := hpq
  exact ⟨⟨p, hu.symm⟩, ⟨q, hv.symm⟩⟩

/-! ### Overlaps -/

/-- A text that overlaps itself begins too early behind what is in front of the overlap. -/
theorem infix_dropLast_of_overlap {u v : List Char} (hu : u ≠ []) (hsplit : needle = u ++ v)
    (hv : v <+: needle) : needle <:+: (u ++ needle).dropLast := by
  obtain ⟨w, hw⟩ := hv
  have hwne : w ≠ [] := by
    rintro rfl
    have hlength := congrArg List.length (hw.trans hsplit)
    have hpos := List.length_pos_iff.2 hu
    simp only [List.append_nil, List.length_append] at hlength
    omega
  refine ⟨[], w.dropLast, ?_⟩
  calc [] ++ needle ++ w.dropLast
      = u ++ v ++ w.dropLast := by rw [List.nil_append, hsplit]
    _ = (u ++ v ++ w).dropLast := (List.dropLast_append_of_ne_nil hwne).symm
    _ = (u ++ needle).dropLast := by rw [List.append_assoc, hw]

/-! ### The first occurrence -/

/-- `needle` lies in `s` behind `before`, and nowhere earlier; `after` is what is behind it. -/
structure FirstAt (needle s before after : List Char) : Prop where
  split : s = before ++ needle ++ after
  earliest : ∀ b a, s = b ++ needle ++ a → before.length ≤ b.length

namespace FirstAt

theorem isInfix (h : FirstAt needle s before after) : needle <:+: s := ⟨before, after, h.split.symm⟩

/-- At the very front nothing can be earlier. -/
theorem front (needle after : List Char) : FirstAt needle (needle ++ after) [] after :=
  ⟨rfl, fun _ _ _ => Nat.zero_le _⟩

theorem unique {before' after' : List Char} (h : FirstAt needle s before after)
    (h' : FirstAt needle s before' after') : before = before' ∧ after = after' := by
  have hlen : before.length = before'.length :=
    Nat.le_antisymm (h.earliest _ _ h'.split) (h'.earliest _ _ h.split)
  have heq : before ++ (needle ++ after) = before' ++ (needle ++ after') := by
    simpa only [List.append_assoc] using h.split.symm.trans h'.split
  obtain ⟨hb, ha⟩ := List.append_inj heq hlen
  exact ⟨hb, List.append_cancel_left ha⟩

/-- Only the empty text lies within what is in front of its first occurrence. -/
theorem not_infix_before (h : FirstAt needle s before after) (hne : needle ≠ []) :
    ¬ needle <:+: before := by
  rintro ⟨u, v, huv⟩
  have hpos := List.length_pos_iff.2 hne
  have hlen := congrArg List.length huv
  have hle := h.earliest u (v ++ needle ++ after) (by rw [h.split, ← huv]; simp)
  simp only [List.length_append] at hlen
  omega

/-- Without a part of the text in front of it, an occurrence is still the first one. -/
theorem drop {p : List Char} (h : FirstAt needle (p ++ s) (p ++ before) after) :
    FirstAt needle s before after := by
  have hsplit : p ++ s = p ++ (before ++ needle ++ after) := by simpa using h.split
  refine ⟨List.append_cancel_left hsplit, ?_⟩
  intro b a hs
  have hle := h.earliest (p ++ b) a (by rw [hs]; simp)
  simp only [List.length_append] at hle
  omega

/-- A character in front of a text moves its first occurrence on, unless there is now one at the
    very front. -/
theorem cons {c : Char} (h : FirstAt needle s before after) (hp : ¬ needle <+: c :: s) :
    FirstAt needle (c :: s) (c :: before) after := by
  refine ⟨by rw [h.split]; rfl, ?_⟩
  intro b a hs
  cases b with
  | nil => exact absurd ⟨a, hs.symm⟩ hp
  | cons d b =>
    simp only [List.cons_append, List.cons.injEq] at hs
    exact Nat.succ_le_succ (h.earliest b a hs.2)

/-- What comes behind a text does not matter to its first occurrence. -/
theorem append (h : FirstAt needle s before after) (rest : List Char) :
    FirstAt needle (s ++ rest) before (after ++ rest) := by
  refine ⟨by rw [h.split, List.append_assoc], ?_⟩
  intro b a hs
  by_contra hlt
  -- an earlier occurrence would end before this one does, so it would lie in the text itself
  have hpre : b ++ needle <+: s := by
    refine List.prefix_of_prefix_length_le ⟨a, hs.symm⟩ (List.prefix_append s rest) ?_
    rw [h.split]
    simp only [List.length_append]
    omega
  obtain ⟨a', ha'⟩ := hpre
  exact hlt (h.earliest b a' ha'.symm)

/-- The part of a text that an occurrence ends in decides whether it is the first one. -/
theorem of_append {rest : List Char} (h : FirstAt needle (s ++ rest) before (after ++ rest)) :
    FirstAt needle s before after := by
  have hsplit : s ++ rest = before ++ needle ++ after ++ rest := by simpa using h.split
  refine ⟨List.append_cancel_right hsplit, ?_⟩
  intro b a hs
  exact h.earliest b (a ++ rest) (by rw [hs]; simp)

/-- At the very end nothing can be earlier, if nothing ends earlier. -/
theorem of_dropLast (h : ¬ needle <:+: (before ++ needle).dropLast) :
    FirstAt needle (before ++ needle) before [] := by
  refine ⟨(List.append_nil _).symm, ?_⟩
  intro b a hs
  by_contra hlt
  have ha : a ≠ [] := by
    rintro rfl
    have hlen := congrArg List.length hs
    simp only [List.length_append, List.length_nil] at hlen
    omega
  apply h
  rw [hs, List.dropLast_append_of_ne_nil ha]
  exact ⟨b, a.dropLast, rfl⟩

theorem not_infix_dropLast (h : FirstAt needle (before ++ needle) before []) (hne : needle ≠ []) :
    ¬ needle <:+: (before ++ needle).dropLast := by
  rintro ⟨u, v, huv⟩
  rw [List.dropLast_append_of_ne_nil hne] at huv
  have hpos := List.length_pos_iff.2 hne
  have hlen := congrArg List.length huv
  have hle := h.earliest u (v ++ [needle.getLast hne]) (by
    rw [← List.append_assoc, huv, List.append_assoc, List.dropLast_append_getLast])
  simp only [List.length_append, List.length_dropLast] at hlen
  omega

end FirstAt

/-! ### The search -/

theorem splitFrom_eq_map (needle passed s : List Char) :
    splitFrom needle passed s =
      (splitFirst needle s).map fun p => (passed.reverse ++ p.1, p.2) := by
  induction s generalizing passed with
  | nil =>
    simp only [splitFirst, splitFrom]
    split <;> simp
  | cons c s ih =>
    simp only [splitFirst, splitFrom]
    split
    · simp
    · rw [ih (c :: passed), ih [c], Option.map_map]
      simp [Function.comp_def]

theorem splitFirst_cons (needle : List Char) (c : Char) (s : List Char) :
    splitFirst needle (c :: s) =
      if needle <+: c :: s then some ([], (c :: s).drop needle.length)
      else (splitFirst needle s).map fun p => (c :: p.1, p.2) := by
  simp only [splitFirst, splitFrom, List.isPrefixOf_iff_prefix]
  split
  · rfl
  · exact splitFrom_eq_map needle [c] s

theorem splitFirst_eq_none_iff : splitFirst needle s = none ↔ ¬ needle <:+: s := by
  induction s with
  | nil => simp [splitFirst, splitFrom]
  | cons c s ih =>
    rw [splitFirst_cons, List.infix_cons_iff, not_or, ← ih]
    by_cases hfront : needle <+: c :: s
    · simp [hfront]
    · simp [hfront]

theorem firstAt_of_splitFirst (h : splitFirst needle s = some (before, after)) :
    FirstAt needle s before after := by
  induction s generalizing before with
  | nil =>
    simp only [splitFirst, splitFrom, List.reverse_nil, Option.ite_none_right_eq_some,
      Option.some.injEq, Prod.mk.injEq, List.isEmpty_iff] at h
    obtain ⟨rfl, rfl, rfl⟩ := h
    exact FirstAt.front [] []
  | cons c s ih =>
    rw [splitFirst_cons] at h
    split at h
    · next hprefix =>
      simp only [Option.some.injEq, Prod.mk.injEq] at h
      obtain ⟨rfl, rfl⟩ := h
      have hfront := FirstAt.front needle ((c :: s).drop needle.length)
      rwa [List.prefix_iff_eq_append.1 hprefix] at hfront
    · next hprefix =>
      obtain ⟨⟨b, a⟩, hs, hba⟩ := Option.map_eq_some_iff.1 h
      simp only [Prod.mk.injEq] at hba
      obtain ⟨rfl, rfl⟩ := hba
      exact (ih hs).cons hprefix

theorem splitFirst_eq_some_iff :
    splitFirst needle s = some (before, after) ↔ FirstAt needle s before after := by
  constructor
  · exact firstAt_of_splitFirst
  · intro h
    cases hs : splitFirst needle s with
    | none => exact absurd h.isInfix (splitFirst_eq_none_iff.1 hs)
    | some p =>
      obtain ⟨hb, ha⟩ := h.unique (firstAt_of_splitFirst hs)
      rw [hb, ha]

end Stencil.Text

namespace Stencil.Delimiters

open Text

variable {d : Delimiters} {s before after kept : List Char}

/-! ### What the searches for delimiters find -/

theorem findOpening_eq_some_iff :
    d.findOpening s = some (before, after) ↔
      d.opening.toList ≠ [] ∧ FirstAt d.opening.toList s before after := by
  simp only [findOpening, List.isEmpty_iff]
  split
  · next h => simp [h]
  · next h => simp [h, splitFirst_eq_some_iff]

theorem findOpening_eq_none_iff :
    d.findOpening s = none ↔ d.opening.toList = [] ∨ ¬ d.opening.toList <:+: s := by
  simp only [findOpening, List.isEmpty_iff]
  split
  · next h => simp [h]
  · next h => simp [h, splitFirst_eq_none_iff]

theorem findClosing_eq_some_iff :
    d.findClosing s = some (before, after) ↔ FirstAt d.closing.toList s before after :=
  splitFirst_eq_some_iff

theorem findClosing_eq_none_iff : d.findClosing s = none ↔ ¬ d.closing.toList <:+: s :=
  splitFirst_eq_none_iff

theorem beforeEscape_eq_some_iff :
    d.beforeEscape s = some kept ↔ d.escapeText ≠ [] ∧ s = kept ++ d.escapeText := by
  simp only [beforeEscape, List.isEmpty_iff]
  split
  · next h => simp [h]
  · next h =>
    rw [and_iff_right h]
    split
    · next hsuffix =>
      have hall := List.suffix_iff_eq_append.1 (List.isSuffixOf_iff_suffix.1 hsuffix)
      rw [Option.some.injEq]
      constructor
      · rintro rfl
        exact hall.symm
      · rintro rfl
        simp
    · next hsuffix =>
      rw [List.isSuffixOf_iff_suffix] at hsuffix
      constructor
      · rintro ⟨⟩
      · rintro rfl
        exact absurd (List.suffix_append kept d.escapeText) hsuffix

theorem beforeEscape_eq_none_iff :
    d.beforeEscape s = none ↔ d.escapeText = [] ∨ ¬ d.escapeText <:+ s := by
  simp only [beforeEscape, List.isEmpty_iff]
  split
  · next h => simp [h]
  · next h => simp [h]

end Stencil.Delimiters
