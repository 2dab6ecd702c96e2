import Stencil.Proofs.Distance
import Stencil.Proofs.Registration

/-!
# Suggestions

A suggestion is the first of the registered identifiers to which the fewest edits lead, if these are
at most three (`Registry.Nearest`). The edits begin at the name in upper case. They end at the
identifier as it was written when it was registered, so that a small letter in it counts as an edit.

Looking up ignores the case of letters on both sides, and suggestions would too if the identifier
were taken in upper case as well. That comes to the same for all names exactly if all identifiers
are written in upper case (`Registry.suggest_nearest_iff`): the first one that is not so written is
missed by a name that differs from it in a few dashes and the case of letters.
-/

namespace Stencil

open Text

namespace Registry

/-- The first of the names at the smallest distance, if that is at most three. -/
inductive Nearest (distance : String → Nat) : List String → Option String → Prop
  | none {names : List String} (h : ∀ i ∈ names, 3 < distance i) : Nearest distance names none
  | some {before after : List String} {i : String} (hi : distance i ≤ 3)
      (hbefore : ∀ j ∈ before, distance i < distance j)
      (hafter : ∀ j ∈ after, distance i ≤ distance j) :
      Nearest distance (before ++ i :: after) (some i)

namespace Nearest

variable {distance distance' : String → Nat} {names before after : List String} {i j : String}
  {o o' : Option String}

theorem le (h : Nearest distance names (Option.some i)) (hj : j ∈ names) :
    distance i ≤ distance j := by
  cases h with
  | some _ hbefore hafter =>
    rw [List.mem_append, List.mem_cons] at hj
    rcases hj with hj | rfl | hj
    · exact Nat.le_of_lt (hbefore j hj)
    · exact Nat.le_refl _
    · exact hafter j hj

theorem le_three (h : Nearest distance names (Option.some i)) : distance i ≤ 3 := by
  cases h with
  | some hi _ _ => exact hi

theorem three_lt (h : Nearest distance names Option.none) : ∀ i ∈ names, 3 < distance i := by
  cases h with
  | none hfar => exact hfar

theorem find?_le (h : Nearest distance names (Option.some i)) :
    names.find? (fun j => distance j ≤ distance i) = Option.some i := by
  cases h with
  | some _ hbefore _ =>
    refine List.find?_eq_some_iff_append.2 ⟨decide_eq_true (Nat.le_refl _), _, _, rfl, ?_⟩
    intro j hj
    simpa using hbefore j hj

theorem mem (h : Nearest distance names (Option.some i)) : i ∈ names :=
  List.mem_of_find?_eq_some h.find?_le

theorem lt_of_mem_before (h : Nearest distance (before ++ i :: after) (Option.some i))
    (hi : i ∉ before) (hj : j ∈ before) : distance i < distance j := by
  have hfind := h.find?_le
  rw [List.find?_append] at hfind
  cases hfirst : before.find? (fun j => distance j ≤ distance i) with
  | none => simpa using List.find?_eq_none.1 hfirst j hj
  | some k =>
    rw [hfirst, Option.some_or] at hfind
    cases hfind
    exact absurd (List.mem_of_find?_eq_some hfirst) hi

/-- There is only one. -/
theorem unique (h : Nearest distance names o) (h' : Nearest distance names o') : o = o' := by
  cases o with
  | none =>
    cases o' with
    | none => rfl
    | some i' =>
      have hfar := h.three_lt i' h'.mem
      have hnear := h'.le_three
      omega
  | some i =>
    cases o' with
    | none =>
      have hfar := h'.three_lt i h.mem
      have hnear := h.le_three
      omega
    | some i' =>
      have hfind := h.find?_le
      rw [Nat.le_antisymm (h.le h'.mem) (h'.le h.mem), h'.find?_le] at hfind
      exact hfind.symm

theorem congr (h : Nearest distance names o) (heq : ∀ j ∈ names, distance j = distance' j) :
    Nearest distance' names o := by
  cases h with
  | none hfar =>
    refine .none fun j hj => ?_
    rw [← heq j hj]
    exact hfar j hj
  | @some before after i hi hbefore hafter =>
    have hi' := heq i (List.mem_append_right before List.mem_cons_self)
    refine .some (hi' ▸ hi) ?_ ?_
    · intro j hj
      rw [← hi', ← heq j (List.mem_append_left _ hj)]
      exact hbefore j hj
    · intro j hj
      rw [← hi', ← heq j (List.mem_append_right _ (List.mem_cons_of_mem _ hj))]
      exact hafter j hj

/-! ### One more name -/

theorem concat_far (h : Nearest distance names o) (hi : 3 < distance i) :
    Nearest distance (names ++ [i]) o := by
  cases h with
  | none hfar => exact .none (List.forall_mem_append.2 ⟨hfar, List.forall_mem_singleton.2 hi⟩)
  | some hj hbefore hafter =>
    rw [List.append_assoc, List.cons_append]
    refine .some hj hbefore (List.forall_mem_append.2 ⟨hafter, ?_⟩)
    exact List.forall_mem_singleton.2 (by omega)

theorem concat_closer (hi : distance i ≤ 3) (h : ∀ j ∈ names, distance i < distance j) :
    Nearest distance (names ++ [i]) (Option.some i) :=
  .some hi h (List.forall_mem_nil _)

theorem concat_not_closer (h : Nearest distance names (Option.some j))
    (hi : distance j ≤ distance i) : Nearest distance (names ++ [i]) (Option.some j) := by
  cases h with
  | some hj hbefore hafter =>
    rw [List.append_assoc, List.cons_append]
    refine .some hj hbefore (List.forall_mem_append.2 ⟨hafter, ?_⟩)
    exact List.forall_mem_singleton.2 hi

end Nearest

/-- **Keeping the closer of two finds the nearest.** -/
theorem exists_nearest_foldl (distance : String → Nat) (names : List String) :
    ∃ o, Nearest distance names o ∧
      ((names.map fun i => (i, distance i)).filter fun c => c.2 ≤ farthest).foldl closer none =
        o.map fun i => (i, distance i) := by
  induction names using List.reverseRecOn with
  | nil => exact ⟨none, .none (List.forall_mem_nil _), rfl⟩
  | append_singleton names i ih =>
    obtain ⟨o, hnearest, hfold⟩ := ih
    rw [List.map_append, List.filter_append, List.foldl_append, hfold]
    by_cases hi : distance i ≤ 3
    · have hone : ([i].map fun i => (i, distance i)).filter (fun c => c.2 ≤ farthest) =
          [(i, distance i)] := List.filter_cons_of_pos (decide_eq_true hi)
      rw [hone, List.foldl_cons, List.foldl_nil]
      cases o with
      | none =>
        refine ⟨some i, .concat_closer hi ?_, rfl⟩
        exact fun j hj => Nat.lt_of_le_of_lt hi (hnearest.three_lt j hj)
      | some j =>
        rw [Option.map_some, closer]
        by_cases hlt : distance i < distance j
        · refine ⟨some i, .concat_closer hi ?_, if_pos hlt⟩
          exact fun k hk => Nat.lt_of_lt_of_le hlt (hnearest.le hk)
        · exact ⟨some j, hnearest.concat_not_closer (Nat.le_of_not_lt hlt), if_neg hlt⟩
    · have hone : ([i].map fun i => (i, distance i)).filter (fun c => c.2 ≤ farthest) = [] :=
        List.filter_cons_of_neg (mt of_decide_eq_true hi)
      rw [hone, List.foldl_nil]
      exact ⟨o, hnearest.concat_far (Nat.lt_of_not_le hi), rfl⟩

/-! ### Small letters in identifiers -/

/-- The edits from a name in upper case to an identifier as it is written. -/
noncomputable def editsAsWritten (name identifier : String) : Nat :=
  leastEdits (fold name) identifier.toList

/-- The edits from a name to an identifier, if both are in upper case. -/
noncomputable def editsIgnoringCase (name identifier : String) : Nat :=
  leastEdits (fold name) (fold identifier)

/-- Suggestions take the identifiers as they are written. -/
theorem suggest_nearest (r : Registry) (name : String) :
    Nearest (editsAsWritten name) r.identifiers (r.suggest name) := by
  obtain ⟨o, hnearest, hfold⟩ := exists_nearest_foldl (editsAsWritten name) r.identifiers
  have hsuggest : r.suggest name = o := by
    simp only [suggest, editDistance_eq]
    refine (congrArg (Option.map Prod.fst) hfold).trans ?_
    rw [Option.map_map]
    exact congrFun Option.map_id o
  rw [hsuggest]
  exact hnearest

/-- A name behind some dashes, which no identifier has. -/
def dashed (n : Nat) (name : String) : String :=
  String.ofList (List.replicate n '-' ++ name.toList)

section Missed

variable {names before after : List String} {x i : String} {n : Nat}
  {answer : String → Option String}

theorem fold_dashed (n : Nat) (x : String) :
    fold (dashed n x) = List.replicate n '-' ++ fold x := by
  rw [fold, dashed, String.toList_ofList, List.map_append, List.map_replicate]
  rfl

theorem editsAsWritten_eq (hi : fold i = i.toList) (name : String) :
    editsAsWritten name i = editsIgnoringCase name i := by
  rw [editsAsWritten, editsIgnoringCase, hi]

theorem editsIgnoringCase_dashed_le (n : Nat) (x : String) :
    editsIgnoringCase (dashed n x) x ≤ n := by
  have h := (Aligned.refl (fold x)).removes (List.replicate n '-')
  rw [List.length_replicate, Nat.zero_add] at h
  rw [editsIgnoringCase, fold_dashed, leastEdits_le_iff]
  exact h

/-- All dashes have to go. -/
theorem le_editsIgnoringCase_dashed (hi : '-' ∉ fold i) (n : Nat) (x : String) :
    n ≤ editsIgnoringCase (dashed n x) i := by
  have hcount := (countP_le_leastEdits (fold (dashed n x)) (fold i) (· == '-')).1
  have hnone : (fold i).countP (· == '-') = 0 := List.count_eq_zero.2 hi
  have hall : (List.replicate n '-').countP (· == '-') = n := List.count_replicate_self
  rw [hnone, fold_dashed, List.countP_append, hall] at hcount
  rw [editsIgnoringCase, fold_dashed]
  omega

/-- All dashes have to go, and a small letter has to come. -/
theorem lt_editsAsWritten_dashed (hx : fold x ≠ x.toList) (n : Nat) :
    n < editsAsWritten (dashed n x) x := by
  have hcount := (countP_le_leastEdits (fold (dashed n x)) x.toList fun c => c.toUpper == c).1
  have hall : (fold (dashed n x)).countP (fun c => c.toUpper == c) = n + x.toList.length := by
    rw [List.countP_eq_length.2, fold, List.length_map, dashed, String.toList_ofList,
      List.length_append, List.length_replicate]
    intro c hc
    obtain ⟨d, -, rfl⟩ := List.mem_map.1 hc
    exact beq_iff_eq.2 (Char.toUpper_toUpper_eq_toUpper d)
  have hsome : x.toList.countP (fun c => c.toUpper == c) < x.toList.length := by
    rw [List.countP_lt_length_iff]
    by_contra hno
    push Not at hno
    refine hx ((List.map_congr_left fun c hc => ?_).trans (List.map_id x.toList))
    simpa using hno c hc
  rw [hall] at hcount
  rw [editsAsWritten]
  omega

/-- With three dashes in front of it at most, `x` is the nearest if what stands before it is farther
    away. -/
theorem answer_dashed
    (hignored : ∀ name, Nearest (editsIgnoringCase name) (before ++ x :: after) (answer name))
    (hdash : ∀ i ∈ before ++ x :: after, '-' ∉ fold i) (hn : n ≤ 3)
    (hfar : ∀ i ∈ before, n < editsIgnoringCase (dashed n x) i) :
    answer (dashed n x) = some x := by
  have hx := editsIgnoringCase_dashed_le n x
  refine (hignored (dashed n x)).unique (.some (hx.trans hn) ?_ ?_)
  · intro i hi
    exact Nat.lt_of_le_of_lt hx (hfar i hi)
  · intro i hi
    have hmem := List.mem_append_right before (List.mem_cons_of_mem x hi)
    exact hx.trans (le_editsIgnoringCase_dashed (hdash i hmem) n x)

/-- What stands before `x` is farther away, dash by dash: what is as near as `x` to one dash more
    would have been the answer to the dashes, since `x` as it is written is not nearer. -/
theorem lt_editsIgnoringCase_dashed
    (hwritten : ∀ name, Nearest (editsAsWritten name) (before ++ x :: after) (answer name))
    (hignored : ∀ name, Nearest (editsIgnoringCase name) (before ++ x :: after) (answer name))
    (hdash : ∀ i ∈ before ++ x :: after, '-' ∉ fold i)
    (hnodup : ((before ++ x :: after).map fold).Nodup)
    (hbefore : ∀ i ∈ before, fold i = i.toList) (hx : fold x ≠ x.toList) (hn : n ≤ 4) :
    ∀ i ∈ before, n < editsIgnoringCase (dashed n x) i := by
  have hne : ∀ i ∈ before, fold x ≠ fold i := by
    intro i hi heq
    rw [List.map_append, List.map_cons] at hnodup
    have hapart := (List.nodup_append.1 hnodup).2.2
    exact hapart _ (List.mem_map_of_mem hi) _ List.mem_cons_self heq.symm
  induction n with
  | zero =>
    intro i hi
    refine Nat.pos_of_ne_zero fun hzero => hne i hi ?_
    rw [editsIgnoringCase, fold_dashed] at hzero
    exact eq_of_leastEdits_eq_zero hzero
  | succ n ih =>
    intro i hi
    have hnearest := hwritten (dashed n x)
    rw [answer_dashed hignored hdash (Nat.le_of_succ_le_succ hn) (ih (Nat.le_of_succ_le hn))]
      at hnearest
    have hcloser := hnearest.lt_of_mem_before (fun h => hne x h rfl) hi
    have hfar := lt_editsAsWritten_dashed hx n
    by_contra hle
    have hdashed : editsIgnoringCase (dashed n x) i ≤ n + 1 := by
      rw [editsIgnoringCase, fold_dashed, leastEdits_le_iff]
      refine Aligned.of_fresh (x := '-') ?_ (hdash i (List.mem_append_left _ hi))
      rw [← List.cons_append, ← List.replicate_succ, ← fold_dashed, ← leastEdits_le_iff]
      exact Nat.le_of_not_lt hle
    rw [← editsAsWritten_eq (hbefore i hi)] at hdashed
    omega

theorem upperCase_of_nearest
    (hwritten : ∀ name, Nearest (editsAsWritten name) names (answer name))
    (hignored : ∀ name, Nearest (editsIgnoringCase name) names (answer name))
    (hdash : ∀ i ∈ names, '-' ∉ fold i) (hnodup : (names.map fold).Nodup) :
    ∀ i ∈ names, fold i = i.toList := by
  by_contra hsmall
  push Not at hsmall
  obtain ⟨i, hi, hne⟩ := hsmall
  -- the first name with a small letter, so that all names before it have none
  obtain ⟨x, hfind⟩ : ∃ x, names.find? (fun i => fold i != i.toList) = some x :=
    Option.isSome_iff_exists.1 (List.find?_isSome.2 ⟨i, hi, bne_iff_ne.2 hne⟩)
  obtain ⟨hx, before, after, rfl, hupper⟩ := List.find?_eq_some_iff_append.1 hfind
  have hx := bne_iff_ne.1 hx
  have hbefore : ∀ i ∈ before, fold i = i.toList := fun i hi => by simpa using hupper i hi
  have hfar := lt_editsIgnoringCase_dashed hwritten hignored hdash hnodup hbefore hx
    (Nat.le_succ 3)
  have hnearest := hwritten (dashed 3 x)
  rw [answer_dashed hignored hdash (Nat.le_refl 3) hfar] at hnearest
  have hle := hnearest.le_three
  have hlt := lt_editsAsWritten_dashed hx 3
  omega

end Missed

/-! ### What the identifiers of a registry have in common -/

theorem Keyed.dash_not_mem {r : Registry} (h : Keyed r) : ∀ i ∈ r.identifiers, '-' ∉ fold i := by
  intro i hi hdash
  obtain ⟨x, hx, rfl⟩ := List.mem_map.1 hi
  obtain ⟨p, hp, rfl⟩ := List.mem_map.1 hx
  obtain ⟨c, hc, hupper⟩ := List.mem_map.1 hdash
  have hname := (isIdentifier_iff.1 (h.identifier p hp)).2 c hc
  rw [← isNameChar_toUpper, hupper] at hname
  cases hname

theorem Keyed.nodup_fold {r : Registry} (h : Keyed r) : (r.identifiers.map fold).Nodup := by
  have hkeys : r.identifiers.map fold = r.entries.map Prod.fst := by
    rw [identifiers, expressions, List.map_map, List.map_map]
    exact List.map_congr_left fun p hp => (h.key p hp).symm
  rw [hkeys]
  exact h.nodup

/-- **Suggestions find the nearest identifier as it is written.** That is the nearest without regard
    to the case of letters for all names exactly if no registered identifier has a small letter. -/
theorem suggest_nearest_iff (history : List Expression) :
    (∀ name, Nearest (editsAsWritten name) (ofHistory history).identifiers
      ((ofHistory history).suggest name)) ∧
    ((∀ name, Nearest (editsIgnoringCase name) (ofHistory history).identifiers
        ((ofHistory history).suggest name)) ↔
      ∀ i ∈ (ofHistory history).identifiers, fold i = i.toList) := by
  have hkeyed := (reachable_ofHistory history).keyed
  generalize ofHistory history = r at hkeyed
  refine ⟨suggest_nearest r, ?_, ?_⟩
  · intro hignored
    exact upperCase_of_nearest (suggest_nearest r) hignored hkeyed.dash_not_mem hkeyed.nodup_fold
  · intro hupper name
    exact (suggest_nearest r name).congr fun i hi => editsAsWritten_eq (hupper i hi) name

/-- One letter is missing, and nothing is suggested, since all others count as replaced. -/
theorem not_nearest_greeting :
    (ofHistory [.claiming "greeting" ["greeting"]]).suggest "greetin" = none ∧
      ¬ Nearest (editsIgnoringCase "greetin")
        (ofHistory [.claiming "greeting" ["greeting"]]).identifiers
        ((ofHistory [.claiming "greeting" ["greeting"]]).suggest "greetin") := by
  have hnone : (ofHistory [.claiming "greeting" ["greeting"]]).suggest "greetin" = none := by
    decide +kernel
  refine ⟨hnone, ?_⟩
  rw [hnone]
  intro h
  have hlt := h.three_lt "greeting" List.mem_cons_self
  rw [editsIgnoringCase, ← editDistance_eq] at hlt
  exact absurd hlt (by decide)

end Registry

end Stencil
