import Stencil.Proofs.SimpleRule

/-!
# Borders

What the cutting makes of two texts, one behind the other. At the border an opening delimiter may
come about, or an escape. A text is plain in front of another one (`Delimiters.Plain`) if neither
begins in it: then it is a literal, and what is behind it is cut as if it stood alone. A text is
sealed (`Delimiters.Sealed`) if neither can begin in it, whatever comes behind.

Most of this holds only of lists of segments whose literals are joined. A reading of such lists does
not see the seams between literals if it takes literals in one after the other (`Seamless`).
-/

namespace Stencil

open Text

/-! ### Readings that do not see seams -/

/-- A reading of segments that takes literals in one after the other: a literal pushes its text
    on to what the rest gives, and pushing twice is pushing both texts at once. -/
structure Seamless {α : Type} (read : List Segment → α) (push : List Char → α → α) : Prop where
  push_nil : ∀ a, push [] a = a
  push_push : ∀ t u a, push t (push u a) = push (t ++ u) a
  literal : ∀ t l, read (.literal t :: l) = push t (read l)
  cons : ∀ s l l', read l = read l' → read (s :: l) = read (s :: l')

namespace Seamless

variable {α : Type} {read : List Segment → α} {push : List Char → α → α} {l l' : List Segment}

theorem read_glue (h : Seamless read push) (t : List Char) (l : List Segment) :
    read (glue t l) = push t (read l) := by
  unfold glue
  split
  · rw [h.literal, h.literal, h.push_push]
  · by_cases ht : t = []
    · simp [ht, h.push_nil]
    · simp [ht, h.literal]

theorem read_joined (h : Seamless read push) (l : List Segment) : read (joined l) = read l := by
  induction l with
  | nil => rfl
  | cons s l ih =>
    cases s with
    | literal t => rw [joined, h.read_glue, ih, h.literal]
    | _ => exact h.cons _ _ _ ih

theorem read_congr (h : Seamless read push) (hjoined : joined l = joined l') :
    read l = read l' := by
  rw [← h.read_joined l, hjoined, h.read_joined]

end Seamless

theorem seamless_append (r : List Segment) : Seamless (fun l => joined (l ++ r)) glue where
  push_nil := glue_nil
  push_push := glue_glue
  literal _ _ := rfl
  cons s _ _ h := joined_cons_congr s h

theorem seamless_map {f : Segment → Segment} (hf : ∀ t, f (.literal t) = .literal t) :
    Seamless (fun l => joined (l.map f)) glue where
  push_nil := glue_nil
  push_push := glue_glue
  literal t l := by rw [List.map_cons, hf]; rfl
  cons s _ _ h := joined_cons_congr (f s) h

theorem joined_append_congr {l l' r r' : List Segment} (hl : joined l = joined l')
    (hr : joined r = joined r') : joined (l ++ r) = joined (l' ++ r') := by
  rw [(seamless_append r).read_congr hl]
  clear hl
  induction l' with
  | nil => exact hr
  | cons s l' ih => exact joined_cons_congr s ih

/-! ### The rule with one state -/

namespace Delimiters

/-- What can become of an opening delimiter with `after` behind it, and where to go on. -/
inductive Judged (d : Delimiters) (limit : Nat) (after : List Char) :
    Segment → Option (List Char) → Prop
  | closed {body rest : List Char} (hclose : d.findClosing (d.window after).1 = some (body, rest))
      (hlimit : byteLength body ≤ limit) :
      Judged d limit after (.placeholder (d.opening.toList ++ body ++ d.closing.toList) body)
        (some (rest ++ (d.window after).2))
  | overlong {body rest : List Char}
      (hclose : d.findClosing (d.window after).1 = some (body, rest))
      (hlimit : limit < byteLength body) :
      Judged d limit after (.literal d.opening.toList) (some after)
  | restarted {p : List Char × List Char} (hclose : d.findClosing (d.window after).1 = none)
      (hopen : d.findOpening after = some p) :
      Judged d limit after (.literal d.opening.toList) (some after)
  | unterminated (hclose : d.findClosing (d.window after).1 = none)
      (hopen : d.findOpening after = none) :
      Judged d limit after (.unterminated (d.opening.toList ++ after)) none

variable {d : Delimiters} {limit : Nat} {after next : List Char} {segment : Segment}

theorem judged_judge (d : Delimiters) (limit : Nat) (after : List Char) :
    d.Judged limit after (d.judge limit after).1 (d.judge limit after).2 := by
  unfold judge
  split
  · next body rest hclose =>
    split
    · next hlimit => exact .closed hclose hlimit
    · next hlimit => exact .overlong hclose (Nat.lt_of_not_le hlimit)
  · next hclose =>
    cases hopen : d.findOpening after with
    | some p => exact .restarted hclose hopen
    | none => exact .unterminated hclose hopen

theorem Judged.judge_eq {next : Option (List Char)} (h : d.Judged limit after segment next) :
    d.judge limit after = (segment, next) := by
  cases h with
  | closed hclose hlimit => simp only [judge, hclose, if_pos hlimit]
  | overlong hclose hlimit => simp only [judge, hclose, if_neg (Nat.not_le.2 hlimit)]
  | restarted hclose hopen => simp only [judge, hclose, hopen, Option.isSome_some, if_true]
  | unterminated hclose hopen =>
    simp only [judge, hclose, hopen, Option.isSome_none, Bool.false_eq_true, if_false]

theorem Judged.judgedSegments_eq {next : Option (List Char)}
    (h : d.Judged limit after segment next) :
    judgedSegments d limit after = segment :: (next.map (simpleSegments d limit)).getD [] := by
  rw [judgedSegments, h.judge_eq]
  cases next <;> rfl

/-- The rule goes on in a part of the text behind the delimiter. -/
theorem Judged.suffix (h : d.Judged limit after segment (some next)) : next <:+ after := by
  cases h with
  | @closed body rest hclose hlimit =>
    have hall := d.window_append after
    rw [findClosing_append hclose] at hall
    exact ⟨body ++ d.closing.toList, by simpa using hall⟩
  | overlong => exact List.suffix_rfl
  | restarted => exact List.suffix_rfl

end Delimiters

/-- What the rule makes of a text, from the end to the beginning. -/
theorem simpleSegments_induction (d : Delimiters) (limit : Nat)
    {motive : List Char → List Segment → Prop}
    (rest : ∀ s, d.findOpening s = none → motive s [.literal s])
    (escaped : ∀ s before after kept, d.findOpening s = some (before, after) →
      d.beforeEscape before = some kept → motive after (simpleSegments d limit after) →
      motive s (.literal kept :: .escaped d.opening.toList :: simpleSegments d limit after))
    (judged : ∀ s before after segment next, d.findOpening s = some (before, after) →
      d.beforeEscape before = none → d.Judged limit after segment next →
      (∀ r ∈ next, motive r (simpleSegments d limit r)) →
      motive s (.literal before :: segment :: (next.map (simpleSegments d limit)).getD []))
    (s : List Char) : motive s (simpleSegments d limit s) := by
  induction s using simpleSegments.induct d limit with
  | case1 s hopen =>
    rw [simpleSegments_of_none hopen]
    exact rest s hopen
  | case2 s before after hopen kept hescape ih =>
    rw [simpleSegments_of_escape hopen hescape]
    exact escaped s before after kept hopen hescape ih
  | case3 s before after hopen hescape ih =>
    have hjudged := d.judged_judge limit after
    rw [simpleSegments_of_opening hopen hescape, hjudged.judgedSegments_eq]
    apply judged s before after _ _ hopen hescape hjudged
    intro r hr
    exact ih _ r (Prod.ext rfl hr)

/-! ### Texts in front of texts -/

namespace Text

variable {needle front s before after : List Char}

/-- The first occurrence in a text stays the first one if none begins in what is put in front. -/
theorem FirstAt.prepend (h : FirstAt needle s before after)
    (hfront : ∀ b a, front ++ s = b ++ needle ++ a → front.length ≤ b.length) :
    FirstAt needle (front ++ s) (front ++ before) after := by
  refine ⟨by rw [h.split]; simp, ?_⟩
  intro b a hs
  have hprefix : front <+: b :=
    List.prefix_of_prefix_length_le ⟨s, rfl⟩ ⟨needle ++ a, by simp [hs]⟩ (hfront b a hs)
  obtain ⟨b, rfl⟩ := hprefix
  have hle := h.earliest b a (by simpa using hs)
  simp only [List.length_append]
  omega

/-- No occurrence begins in a text that holds none and does not end with the beginning of one. -/
theorem length_le_of_sealed {b a : List Char} (hfree : ¬ needle <:+: front)
    (hsealed : ∀ u v, needle = u ++ v → u ≠ [] → v ≠ [] → ¬ u <:+ front)
    (hs : front ++ s = b ++ needle ++ a) : front.length ≤ b.length := by
  by_contra hlt
  have hprefix : b <+: front :=
    List.prefix_of_prefix_length_le ⟨needle ++ a, by simp [hs]⟩ ⟨s, rfl⟩ (by omega)
  obtain ⟨u, rfl⟩ := hprefix
  have hu : u ≠ [] := by
    rintro rfl
    simp at hlt
  rw [List.append_assoc, List.append_assoc, List.append_cancel_left_eq,
    List.append_eq_append_iff] at hs
  rcases hs with ⟨v, hneedle, -⟩ | ⟨v, rfl, -⟩
  · by_cases hv : v = []
    · subst hv
      exact hfree ⟨b, [], by simp [hneedle]⟩
    · exact hsealed u v hneedle hu hv (List.suffix_append b u)
  · exact hfree ⟨b, v, by simp⟩

theorem suffix_of_sealed {x : List Char} (hsealed : ∀ u v, x = u ++ v → u ≠ [] → ¬ u <:+ front)
    (hx : x <:+ front ++ s) : x <:+ s := by
  rcases List.suffix_or_suffix_of_suffix hx (List.suffix_append front s) with h | ⟨u, rfl⟩
  · exact h
  · by_cases hu : u = []
    · simp [hu]
    · obtain ⟨p, hp⟩ := hx
      have hfront : p ++ u = front := by
        rw [← List.append_assoc] at hp
        exact List.append_cancel_right hp
      exact absurd ⟨p, hfront⟩ (hsealed u s rfl hu)

end Text

namespace Delimiters

variable {d : Delimiters} {front rest before after : List Char}

/-- In front of `rest` there is only text: no opening delimiter begins in it, nor does an escape
    that ends in front of the first opening delimiter of `rest`. -/
structure Plain (d : Delimiters) (front rest : List Char) : Prop where
  opening : ∀ b a, front ++ rest = b ++ d.opening.toList ++ a → front.length ≤ b.length
  escape : ∀ before after, d.findOpening rest = some (before, after) →
    d.escapeText <:+ front ++ before → d.escapeText <:+ before

/-- A text at whose end neither an opening delimiter nor an escape has begun. -/
structure Sealed (d : Delimiters) (front : List Char) : Prop where
  opening : ∀ u v, d.opening.toList = u ++ v → u ≠ [] → v ≠ [] → ¬ u <:+ front
  escape : ∀ u v, d.escapeText = u ++ v → u ≠ [] → ¬ u <:+ front

theorem Sealed.plain (h : d.Sealed front) (hopening : ¬ d.opening.toList <:+: front)
    (rest : List Char) : d.Plain front rest where
  opening _ _ hs := length_le_of_sealed hopening h.opening hs
  escape _ _ _ hx := suffix_of_sealed h.escape hx

theorem Sealed.of_suffix {t : List Char} (h : d.Sealed t) (hsuffix : front <:+ t) :
    d.Sealed front where
  opening u v heq hu hv hend := h.opening u v heq hu hv (hend.trans hsuffix)
  escape u v heq hu hend := h.escape u v heq hu (hend.trans hsuffix)

/-- With the usual punctuation, all that matters is a dollar sign. -/
theorem sealed_standard (h : front.getLast? ≠ some '$') : standard.Sealed front := by
  have hdollar : ¬ ['$'] <:+ front := by
    rintro ⟨t, rfl⟩
    simp at h
  refine ⟨?_, ?_⟩
  · intro u v heq hu hv hend
    rcases u with _ | ⟨a, _ | ⟨b, u⟩⟩
    · exact hu rfl
    · obtain ⟨rfl, -⟩ := List.cons.inj heq
      exact hdollar hend
    · have hopening : standard.opening.toList.length = 2 := rfl
      have hlength := congrArg List.length heq
      have hpos := List.length_pos_iff.2 hv
      simp only [hopening, List.length_append, List.length_cons] at hlength
      omega
  · intro u v heq hu hend
    rcases u with _ | ⟨a, u⟩
    · exact hu rfl
    · obtain ⟨rfl, hnil⟩ := List.cons.inj heq
      obtain ⟨rfl, -⟩ := List.append_eq_nil_iff.1 hnil.symm
      exact hdollar hend

theorem Plain.findOpening_eq (h : d.Plain front rest) :
    d.findOpening (front ++ rest) =
      (d.findOpening rest).map fun p => (front ++ p.1, p.2) := by
  cases hrest : d.findOpening rest with
  | some p =>
    obtain ⟨hne, hfirst⟩ := findOpening_eq_some_iff.1 hrest
    exact findOpening_eq_some_iff.2 ⟨hne, hfirst.prepend h.opening⟩
  | none =>
    rw [Option.map_none, findOpening_eq_none_iff]
    rcases findOpening_eq_none_iff.1 hrest with hempty | hfree
    · exact .inl hempty
    · right
      rintro ⟨b, a, hs⟩
      -- the occurrence would begin behind `front`, that is in `rest`
      have hprefix : front <+: b :=
        List.prefix_of_prefix_length_le ⟨rest, rfl⟩ ⟨d.opening.toList ++ a, by simp [← hs]⟩
          (h.opening b a hs.symm)
      obtain ⟨b, rfl⟩ := hprefix
      exact hfree ⟨b, a, by simpa using hs⟩

/-- The placeholder is closed in the same place, or behind the text in front. -/
theorem Plain.window_eq (h : d.Plain front rest) :
    d.window (front ++ rest) = (front ++ (d.window rest).1, (d.window rest).2) := by
  unfold window
  rw [h.findOpening_eq]
  cases d.findOpening rest <;> rfl

theorem Plain.beforeEscape_eq (h : d.Plain front rest)
    (hopen : d.findOpening rest = some (before, after)) :
    d.beforeEscape (front ++ before) = (d.beforeEscape before).map (front ++ ·) := by
  cases hbefore : d.beforeEscape before with
  | some kept =>
    obtain ⟨hne, rfl⟩ := beforeEscape_eq_some_iff.1 hbefore
    exact beforeEscape_eq_some_iff.2 ⟨hne, by simp⟩
  | none =>
    rw [Option.map_none, beforeEscape_eq_none_iff]
    rcases beforeEscape_eq_none_iff.1 hbefore with hempty | hsuffix
    · exact .inl hempty
    · exact .inr fun hx => hsuffix (h.escape before after hopen hx)

/-- **A plain text in front is a literal in front.** -/
theorem Plain.joined_simpleSegments (h : d.Plain front rest) (limit : Nat) :
    joined (simpleSegments d limit (front ++ rest)) =
      joined (.literal front :: simpleSegments d limit rest) := by
  have hopen := h.findOpening_eq
  cases hrest : d.findOpening rest with
  | none =>
    rw [hrest] at hopen
    rw [simpleSegments_of_none hopen, simpleSegments_of_none hrest, joined_literal_append]
  | some p =>
    obtain ⟨before, after⟩ := p
    have hescape := h.beforeEscape_eq hrest
    rw [hrest] at hopen
    cases hbefore : d.beforeEscape before with
    | some kept =>
      rw [hbefore] at hescape
      rw [simpleSegments_of_escape hopen hescape, simpleSegments_of_escape hrest hbefore,
        joined_literal_append]
    | none =>
      rw [hbefore] at hescape
      rw [simpleSegments_of_opening hopen hescape, simpleSegments_of_opening hrest hbefore,
        joined_literal_append]

end Delimiters

end Stencil
