import Mathlib
import Stencil.Metrics
import Stencil.Proofs.Budget

/-!
# Metrics count what reports tell

The counts over any renders, of any engines and templates, and in any order, are those that the
renders give one by one. Under an identifier stands how many placeholders the expressions of that
identifier replace, which is said without the render: it is a matter of the segments of the template
and of the registry (`Engine.replacing`). What was not replaced stands under labels without an
expression, and their counts are the sums over the reports.

So a label never holds text from a template: it names an expression that is registered in one of the
engines, or none.
-/

namespace Stencil

open Text

/-! ### What a run of renders ought to be counted as -/

/-- A render: the engine and the template, and the world and the random words that it meets. -/
structure Render where
  engine : Engine
  world : World
  words : Words
  template : String

namespace Engine

/-- The expression that answers a body, when `count` placeholders have been replaced before. -/
def answering? (e : Engine) (count : Nat) (body : List Char) : Option Expression :=
  if count < e.limits.expansions then
    (Call.ofBody e.delimiters body).toOption.bind fun call => e.registry.resolve call.identifier
  else none

/-- The expressions that replace the placeholders among segments, in order, when `count` have been
    replaced before. -/
def replacing (e : Engine) (count : Nat) : List Segment → List Expression
  | [] => []
  | .placeholder _ body :: rest =>
    match e.answering? count body with
    | some x => x :: e.replacing (count + 1) rest
    | none => e.replacing count rest
  | _ :: rest => e.replacing count rest

end Engine

namespace Render

/-- What comes of a render. -/
def rendering (r : Render) : Rendering := r.engine.render r.world r.words r.template

/-- The expressions that replace the placeholders of the template, in order. -/
def replacing (r : Render) : List Expression :=
  r.engine.replacing 0
    (segments r.engine.delimiters r.engine.limits.bodyLength r.template.toList)

/-- How many placeholders are replaced by the expressions of an identifier. -/
def replacedBy (identifier : String) (r : Render) : Nat :=
  r.replacing.countP fun x => x.identifier == identifier

end Render

/-- The counts tell the same as the reports. Every label has one count, and the sum over the labels
    of all replacements is that over the reports. -/
structure Metrics.Tells (rs : List Render) (m : Metrics) : Prop where
  renders : m.renders = rs.length
  replaced : ∀ identifier,
    m.value ⟨identifier, "substituted"⟩ = (rs.map (Render.replacedBy identifier)).sum
  substituted :
    ((m.placeholders.filter fun entry => entry.1.outcome == "substituted").map Prod.snd).sum =
      (rs.map fun r => r.rendering.report.substituted).sum
  unknown : m.value ⟨PlaceholderLabel.noExpression, "unknown"⟩ =
    (rs.map fun r => r.rendering.report.unknown.length).sum
  malformed : m.value ⟨PlaceholderLabel.noExpression, "malformed"⟩ =
    (rs.map fun r => r.rendering.report.malformed).sum
  skipped : m.value ⟨PlaceholderLabel.noExpression, "skipped"⟩ =
    (rs.map fun r => r.rendering.report.skipped).sum
  unique : (m.placeholders.map Prod.fst).Nodup
  label : ∀ entry ∈ m.placeholders,
    (entry.1.outcome = "substituted" ∧
      ∃ r ∈ rs, ∃ x ∈ r.engine.registry.expressions, x.identifier = entry.1.expression) ∨
    (entry.1.expression = PlaceholderLabel.noExpression ∧
      entry.1.outcome ∈ ["unknown", "malformed", "skipped"])

/-! ### The expressions that replace -/

namespace Engine

variable {e : Engine} {world : World} {count : Nat} {words : Words} {body : List Char}
  {x : Expression}

theorem answering?_eq_some_iff :
    e.answering? count body = some x ↔ ∃ call, e.Answers count body call x := by
  rw [answering?]
  by_cases hlimit : count < e.limits.expansions
  · cases hread : Call.ofBody e.delimiters body with
    | error error => simp [Answers, hread, hlimit, Except.toOption]
    | ok call => simp [Answers, hread, hlimit, Except.toOption]
  · simp [Answers, hlimit]

/-- The outcome of a placeholder names the expression that answers its body, if one does. -/
theorem answer?_settle (e : Engine) (world : World) (count : Nat) (words : Words)
    (raw body : List Char) :
    (Piece.placeholder raw (e.settle world count words body).1).answer?.map Prod.fst =
      (e.answering? count body).map Expression.identifier := by
  have hbecomes := e.becomes_settle world count words body
  generalize (e.settle world count words body).1 = outcome at hbecomes
  generalize (e.settle world count words body).2 = words' at hbecomes
  -- a placeholder that is left as it is has no answer, and then no expression may answer its body
  cases hbecomes with
  | skipped hlimit =>
    have hnone : e.answering? count body = none := if_neg (Nat.not_lt.2 hlimit)
    rw [hnone]
    rfl
  | malformed hlimit hread =>
    have hnone : e.answering? count body = none := by
      simp [answering?, hread, Except.toOption]
    rw [hnone]
    rfl
  | unknown hlimit hread hresolve =>
    have hnone : e.answering? count body = none := by
      simp [answering?, hread, hresolve, Except.toOption]
    rw [hnone]
    rfl
  | substituted hanswers =>
    rw [answering?_eq_some_iff.2 ⟨_, hanswers⟩]
    rfl

/-- A render names the expressions that replace the placeholders among its segments. -/
theorem answer?_pieces (e : Engine) (world : World) (count : Nat) (words : Words)
    (cuts : List Cut) :
    ((e.pieces world count words cuts).pieces.filterMap Piece.answer?).map Prod.fst =
      (e.replacing count (cuts.map Cut.segment)).map Expression.identifier := by
  induction cuts generalizing count words with
  | nil => rfl
  | cons cut cuts ih =>
    by_cases hplace : cut.segment.isPlaceholder = false
    · have hskip : e.replacing count ((cut :: cuts).map Cut.segment) =
          e.replacing count (cuts.map Cut.segment) := by
        rw [List.map_cons]
        cases hsegment : cut.segment with
        | placeholder raw body => cases hsegment ▸ hplace
        | _ => rfl
      rw [pieces_copied hplace, hskip, ← ih count words]
      rfl
    · rw [Bool.not_eq_false] at hplace
      obtain ⟨raw, body, hsegment⟩ := Segment.exists_of_isPlaceholder hplace
      have hanswer := e.answer?_settle world count words raw body
      have hsub := (Piece.placeholder raw (e.settle world count words body).1).isSome_answer?
      rw [pieces_placeholder hsegment, List.map_cons, hsegment, replacing]
      -- a replacement is counted for the rest on both sides, or on none
      cases hanswering : e.answering? count body with
      | none =>
        rw [hanswering, Option.map_none, Option.map_eq_none_iff] at hanswer
        rw [hanswer, Option.isSome_none] at hsub
        have hno : (e.settle world count words body).1.isSubstituted = false := hsub.symm
        simp only [hno, List.filterMap_cons, hanswer, Bool.false_eq_true, if_false, ih]
      | some x =>
        rw [hanswering, Option.map_some, Option.map_eq_some_iff] at hanswer
        obtain ⟨answer, hsome, hfst⟩ := hanswer
        rw [hsome, Option.isSome_some] at hsub
        have hyes : (e.settle world count words body).1.isSubstituted = true := hsub.symm
        simp only [hyes, List.filterMap_cons, hsome, if_true, List.map_cons, hfst, ih]

theorem mem_expressions_of_mem_replacing {segments : List Segment}
    (h : x ∈ e.replacing count segments) : x ∈ e.registry.expressions := by
  induction segments generalizing count with
  | nil => cases h
  | cons segment segments ih =>
    cases segment with
    | placeholder raw body =>
      rw [replacing] at h
      cases hanswering : e.answering? count body with
      | none =>
        rw [hanswering] at h
        exact ih h
      | some y =>
        rw [hanswering] at h
        rcases List.mem_cons.1 h with rfl | h
        · obtain ⟨call, -, -, hresolve⟩ := answering?_eq_some_iff.1 hanswering
          exact Registry.mem_of_resolve hresolve
        · exact ih h
    | _ => exact ih h

end Engine

theorem Render.answer?_rendering (r : Render) :
    (r.rendering.pieces.filterMap Piece.answer?).map Prod.fst =
      r.replacing.map Expression.identifier :=
  r.engine.answer?_pieces r.world 0 r.words _

/-! ### Counting labels -/

namespace Metrics

variable {label l : PlaceholderLabel} {counts : List (PlaceholderLabel × Nat)}

theorem lookup_bump (label l : PlaceholderLabel) (counts : List (PlaceholderLabel × Nat)) :
    ((bump label counts).lookup l).getD 0 =
      (counts.lookup l).getD 0 + if label = l then 1 else 0 := by
  induction counts with
  | nil =>
    by_cases h : label = l
    · simp [bump, h]
    · simp [bump, List.lookup_cons, h, beq_false_of_ne (Ne.symm h)]
  | cons entry counts ih =>
    obtain ⟨key, n⟩ := entry
    rw [bump, List.lookup_cons]
    by_cases hkey : key = label
    · subst hkey
      by_cases h : key = l
      · simp [h]
      · simp [List.lookup_cons, h, beq_false_of_ne (Ne.symm h)]
    · rw [if_neg hkey, List.lookup_cons]
      by_cases h : l = key
      · simp [h, Ne.symm hkey]
      · simp [beq_false_of_ne h, ih]

/-- Of the labels of a kind, one more has been counted, if the new one is of that kind. -/
theorem sum_bump (kind : PlaceholderLabel → Bool) (label : PlaceholderLabel)
    (counts : List (PlaceholderLabel × Nat)) :
    (((bump label counts).filter fun entry => kind entry.1).map Prod.snd).sum =
      ((counts.filter fun entry => kind entry.1).map Prod.snd).sum +
        if kind label = true then 1 else 0 := by
  induction counts with
  | nil => by_cases h : kind label = true <;> simp [bump, h]
  | cons entry counts ih =>
    obtain ⟨key, n⟩ := entry
    rw [bump]
    by_cases hkey : key = label
    · subst hkey
      by_cases h : kind key = true
      · simp [h, Nat.add_right_comm]
      · simp [h]
    · by_cases h : kind key = true
      · simp [hkey, h, ih, Nat.add_assoc]
      · simp [hkey, h, ih]

theorem map_fst_bump (label : PlaceholderLabel) (counts : List (PlaceholderLabel × Nat)) :
    (bump label counts).map Prod.fst =
      if label ∈ counts.map Prod.fst then counts.map Prod.fst
      else counts.map Prod.fst ++ [label] := by
  induction counts with
  | nil => rfl
  | cons entry counts ih =>
    obtain ⟨key, n⟩ := entry
    rw [bump]
    by_cases hkey : key = label
    · simp [hkey]
    · simp only [hkey, if_false, List.map_cons, ih, List.mem_cons, Ne.symm hkey, false_or]
      split <;> rfl

theorem nodup_bump (h : (counts.map Prod.fst).Nodup) :
    ((bump label counts).map Prod.fst).Nodup := by
  rw [map_fst_bump]
  split
  · exact h
  · next hnew =>
    rw [← List.concat_eq_append]
    exact h.concat hnew

/-- The labels of renders, in order and with repetitions. -/
def labels (renderings : List Rendering) : List PlaceholderLabel :=
  renderings.flatMap fun r => r.pieces.filterMap Piece.label?

/-- Counts in which every label has been counted as often as it occurs. -/
structure Counted (seen : List PlaceholderLabel) (counts : List (PlaceholderLabel × Nat)) :
    Prop where
  value : ∀ l, (counts.lookup l).getD 0 = seen.count l
  sum : ∀ kind : PlaceholderLabel → Bool,
    ((counts.filter fun entry => kind entry.1).map Prod.snd).sum = seen.countP kind
  nodup : (counts.map Prod.fst).Nodup
  subset : counts.map Prod.fst ⊆ seen

theorem Counted.nil : Counted [] [] where
  value _ := rfl
  sum _ := rfl
  nodup := List.nodup_nil
  subset := List.Subset.refl _

theorem Counted.bump {seen : List PlaceholderLabel} (h : Counted seen counts)
    (label : PlaceholderLabel) : Counted (seen ++ [label]) (bump label counts) where
  value l := by
    rw [lookup_bump, h.value, List.count_append, List.count_singleton]
    simp
  sum kind := by
    rw [sum_bump, h.sum, List.countP_append, List.countP_singleton]
  nodup := nodup_bump h.nodup
  subset := by
    rw [map_fst_bump]
    split
    · exact fun l hl => List.mem_append_left _ (h.subset hl)
    · exact List.append_subset.2
        ⟨fun l hl => List.mem_append_left _ (h.subset hl), List.subset_append_right _ _⟩

theorem Counted.foldl {seen : List PlaceholderLabel} (h : Counted seen counts)
    (more : List PlaceholderLabel) :
    Counted (seen ++ more) (more.foldl (fun counts l => Metrics.bump l counts) counts) := by
  induction more generalizing seen counts with
  | nil => rwa [List.append_nil]
  | cons label more ih =>
    rw [List.foldl_cons, List.append_cons]
    exact ih (h.bump label)

theorem counted_foldl_record {seen : List PlaceholderLabel} {m : Metrics}
    (h : Counted seen m.placeholders) (renderings : List Rendering) :
    (renderings.foldl record m).renders = m.renders + renderings.length ∧
      Counted (seen ++ labels renderings) (renderings.foldl record m).placeholders := by
  induction renderings generalizing seen m with
  | nil =>
    rw [labels, List.flatMap_nil, List.append_nil]
    exact ⟨rfl, h⟩
  | cons r renderings ih =>
    obtain ⟨hrenders, hcounted⟩ := ih (m := m.record r) (h.foldl (r.pieces.filterMap Piece.label?))
    rw [List.foldl_cons, labels, List.flatMap_cons, ← List.append_assoc]
    refine ⟨?_, hcounted⟩
    rw [hrenders, record, List.length_cons, Nat.add_assoc, Nat.add_comm 1]

theorem counted_ofRenderings (renderings : List Rendering) :
    (ofRenderings renderings).renders = renderings.length ∧
      Counted (labels renderings) (ofRenderings renderings).placeholders := by
  have h := counted_foldl_record (m := empty) Counted.nil renderings
  rw [List.nil_append] at h
  exact ⟨h.1.trans (Nat.zero_add _), h.2⟩

end Metrics

/-! ### The labels of a render -/

namespace Piece

/-- A label names the expression that replaced its placeholder, or none. -/
theorem cases_of_label? {p : Piece} {l : PlaceholderLabel} (h : p.label? = some l) :
    (l.outcome = "substituted" ∧ p.answer?.map Prod.fst = some l.expression) ∨
      (l.expression = PlaceholderLabel.noExpression ∧
        l.outcome ∈ ["unknown", "malformed", "skipped"]) := by
  rcases p with cut | ⟨raw, _ | _ | _ | _⟩
  · cases h
  · obtain rfl := Option.some.inj h
    exact .inl ⟨rfl, rfl⟩
  all_goals
    obtain rfl := Option.some.inj h
    exact .inr ⟨rfl, by simp [Outcome.label]⟩

end Piece

namespace Metrics

variable {rs : List Render}

/-- The labels of a kind are counted piece by piece: what is copied has none, and the label of a
    placeholder is of that kind if its outcome is. -/
theorem countP_labels {kind : PlaceholderLabel → Bool} {f : Piece → Bool}
    (hcopied : ∀ cut, f (.copied cut) = false)
    (houtcome : ∀ raw outcome, f (.placeholder raw outcome) = kind outcome.label)
    (rs : List Render) :
    (labels (rs.map Render.rendering)).countP kind =
      (rs.map fun r => r.rendering.pieces.countP f).sum := by
  rw [labels, List.flatMap_map, List.countP_flatMap]
  congr 1
  refine List.map_congr_left fun r _ => ?_
  rw [Function.comp_apply, List.countP_filterMap]
  refine List.countP_congr fun p _ => ?_
  cases p with
  | copied cut =>
    rw [hcopied]
    rfl
  | placeholder raw outcome =>
    rw [houtcome]
    rfl

theorem count_substituted (identifier : String) (rs : List Render) :
    (labels (rs.map Render.rendering)).count ⟨identifier, "substituted"⟩ =
      (rs.map (Render.replacedBy identifier)).sum := by
  refine (countP_labels (f := fun p => p.answer?.any fun answer => answer.1 == identifier)
    (fun _ => rfl) ?_ rs).trans ?_
  · rintro raw (_ | _ | _ | _) <;> simp [Outcome.label, Piece.answer?]
  congr 1
  refine List.map_congr_left fun r _ => ?_
  calc r.rendering.pieces.countP (fun p => p.answer?.any fun answer => answer.1 == identifier)
      = ((r.rendering.pieces.filterMap Piece.answer?).map Prod.fst).countP (· == identifier) := by
        rw [List.countP_map, List.countP_filterMap]
        refine List.countP_congr fun p _ => ?_
        cases p.answer? <;> rfl
    _ = r.replacedBy identifier := by
        rw [r.answer?_rendering, List.countP_map]
        rfl

theorem exists_of_mem_labels {l : PlaceholderLabel} (h : l ∈ labels (rs.map Render.rendering)) :
    (l.outcome = "substituted" ∧
      ∃ r ∈ rs, ∃ x ∈ r.engine.registry.expressions, x.identifier = l.expression) ∨
    (l.expression = PlaceholderLabel.noExpression ∧
      l.outcome ∈ ["unknown", "malformed", "skipped"]) := by
  rw [labels, List.flatMap_map] at h
  obtain ⟨r, hr, hlabel⟩ := List.mem_flatMap.1 h
  obtain ⟨p, hp, hlabel⟩ := List.mem_filterMap.1 hlabel
  rcases Piece.cases_of_label? hlabel with ⟨houtcome, hanswer⟩ | hnone
  · obtain ⟨answer, hsome, hfst⟩ := Option.map_eq_some_iff.1 hanswer
    have hmem : l.expression ∈ r.replacing.map Expression.identifier := by
      rw [← r.answer?_rendering, ← hfst]
      exact List.mem_map_of_mem (List.mem_filterMap.2 ⟨p, hp, hsome⟩)
    obtain ⟨x, hx, hidentifier⟩ := List.mem_map.1 hmem
    exact .inl ⟨houtcome, r, hr, x, Engine.mem_expressions_of_mem_replacing hx, hidentifier⟩
  · exact .inr hnone

/-- **Metrics tell the same as the reports.** The counts over renders of any engines and templates
    are the number of renders, for every identifier the number of placeholders that its expressions
    replaced, and the sums over the reports; and a label names a registered expression, or none. -/
theorem ofRenderings_tell (rs : List Render) :
    (ofRenderings (rs.map Render.rendering)).Tells rs := by
  obtain ⟨hrenders, hcounted⟩ := counted_ofRenderings (rs.map Render.rendering)
  have hvalue (l : PlaceholderLabel) : (ofRenderings (rs.map Render.rendering)).value l =
      (labels (rs.map Render.rendering)).count l := hcounted.value l
  refine ⟨?_, ?_, ?_, ?_, ?_, ?_, hcounted.nodup, ?_⟩
  · rw [hrenders, List.length_map]
  · intro identifier
    rw [hvalue, count_substituted]
  · rw [hcounted.sum fun l => l.outcome == "substituted"]
    refine countP_labels (fun _ => rfl) ?_ rs
    rintro raw (_ | _ | _ | _) <;> rfl
  · rw [hvalue]
    refine (countP_labels (f := fun p => p.unknown?.isSome) (fun _ => rfl) ?_ rs).trans ?_
    · rintro raw (_ | _ | _ | _) <;> simp [Outcome.label, Piece.unknown?]
    · simp only [← List.length_filterMap_eq_countP]
      rfl
  · rw [hvalue]
    refine countP_labels (fun _ => rfl) ?_ rs
    rintro raw (_ | _ | _ | _) <;> simp [Outcome.label, Piece.isMalformed]
  · rw [hvalue]
    refine countP_labels (fun _ => rfl) ?_ rs
    rintro raw (_ | _ | _ | _) <;> simp [Outcome.label, Piece.isSkipped]
  · intro entry hentry
    exact exists_of_mem_labels (hcounted.subset (List.mem_map_of_mem hentry))

end Metrics

end Stencil
