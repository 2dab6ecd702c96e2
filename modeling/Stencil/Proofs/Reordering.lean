import Stencil.Proofs.Builtins

/-!
# The order of registration

A list of expressions that claim their own identifiers is registered without an error exactly if no
two of them conflict (`Registry.exists_registerAll_iff`), and a conflict has no direction. So it
does not matter in which order they come. Nor does it matter afterwards for a name that at most one
of them claims, and the identifiers of all of them are such names. A name that two of them claim
goes to the one that comes first.
-/

namespace Stencil

open Text

/-- The identifier is one, and the expression claims it, in any case of the letters. -/
structure Expression.Regular (x : Expression) : Prop where
  isIdentifier : isIdentifier x.identifier = true
  claimsItself : x.claims x.identifier = true
  ignoresCase : x.IgnoresCase

/-! ### Searching in another order -/

section Search

variable {α : Type} {p : α → Bool} {l l' : List α}

theorem find?_eq_some_iff_of_unique (hone : ∀ a ∈ l, ∀ b ∈ l, p a = true → p b = true → a = b)
    {a : α} : l.find? p = some a ↔ a ∈ l ∧ p a = true := by
  constructor
  · intro h
    exact ⟨List.mem_of_find?_eq_some h, List.find?_some h⟩
  · rintro ⟨ha, hpa⟩
    cases hfind : l.find? p with
    | none => exact absurd hpa (List.find?_eq_none.1 hfind a ha)
    | some b => rw [hone b (List.mem_of_find?_eq_some hfind) a ha (List.find?_some hfind) hpa]

theorem find?_perm (h : l.Perm l')
    (hone : ∀ a ∈ l, ∀ b ∈ l, p a = true → p b = true → a = b) : l.find? p = l'.find? p := by
  have hone' : ∀ a ∈ l', ∀ b ∈ l', p a = true → p b = true → a = b := by
    intro a ha b hb
    exact hone a (h.mem_iff.2 ha) b (h.mem_iff.2 hb)
  apply Option.ext
  intro a
  rw [find?_eq_some_iff_of_unique hone, find?_eq_some_iff_of_unique hone', h.mem_iff]

end Search

namespace Registry

variable {r r' : Registry} {xs ys : List Expression} {x : Expression} {name : String}

/-! ### When a list is registered -/

theorem conflict_comm (x y : Expression) : conflict x y = conflict y x := by
  rw [conflict, conflict, Bool.or_comm]

instance : Std.Symm fun x y => conflict x y = false where
  symm x y h := by rwa [conflict_comm]

/-- What has been registered without an error stands behind what was there. -/
theorem Indexed.of_registerAll (h : Indexed r) (hxs : ∀ x ∈ xs, x.Regular)
    (hok : r.registerAll xs = .ok r') : Indexed r' ∧ r'.expressions = r.expressions ++ xs := by
  induction xs generalizing r with
  | nil =>
    cases hok
    exact ⟨h, (List.append_nil _).symm⟩
  | cons x xs ih =>
    obtain ⟨hx, hxs⟩ := List.forall_mem_cons.1 hxs
    rw [Registry.registerAll] at hok
    split at hok
    · next r₁ hfirst =>
      obtain ⟨hindexed, happend⟩ := h.register hx.ignoresCase hx.claimsItself hfirst
      obtain ⟨hindexed', happend'⟩ := ih hindexed hxs hok
      refine ⟨hindexed', ?_⟩
      rw [happend', happend, List.append_assoc, List.singleton_append]
    · cases hok

theorem exists_registerAll_iff (hxs : ∀ x ∈ xs, x.Regular) :
    (∃ r, empty.registerAll xs = .ok r) ↔ xs.Pairwise fun x y => conflict x y = false := by
  constructor
  · rintro ⟨r, hok⟩
    obtain ⟨hindexed, hall⟩ := Indexed.empty.of_registerAll hxs hok
    have hseparate := hindexed.separate
    rwa [hall] at hseparate
  · intro hseparate
    obtain ⟨r, hok, -⟩ := Indexed.empty.registerAll (fun x hx => (hxs x hx).isIdentifier)
      (fun x hx => (hxs x hx).ignoresCase) (fun x hx => (hxs x hx).claimsItself) hseparate
    exact ⟨r, hok⟩

/-! ### What names resolve to -/

/-- Nobody else claims the identifier of a registered expression. -/
theorem Indexed.eq_of_claims (h : Indexed r) (hx : x ∈ r.expressions)
    (hname : fold name = fold x.identifier) {y : Expression} (hy : y ∈ r.expressions)
    (hclaims : y.claims name = true) : y = x := by
  by_contra hne
  rw [h.ignoresCase y hy _ _ hname] at hclaims
  have hno := h.separate.forall hy hx hne
  rw [conflict, hclaims] at hno
  cases hno

/-- **The order of registration does not matter.** Let expressions claim their own identifiers and
    ignore the case of letters. If they are all registered without an error in one order, they are
    so in every other. A name that at most one of them claims then resolves to the same expression
    in both registries, or to none. The identifier of each of them is such a name, in any case of
    its letters, and resolves to that expression. -/
theorem registerAll_perm (h : xs.Perm ys) (hxs : ∀ x ∈ xs, x.Regular) :
    ((∃ r, empty.registerAll xs = .ok r) ↔ ∃ r, empty.registerAll ys = .ok r) ∧
    ∀ r r', empty.registerAll xs = .ok r → empty.registerAll ys = .ok r' →
      (∀ name, (∀ x ∈ xs, ∀ y ∈ xs, x.claims name = true → y.claims name = true → x = y) →
        r.resolve name = r'.resolve name) ∧
      ∀ x ∈ xs, ∀ name, sameName name x.identifier = true →
        (∀ y ∈ xs, y.claims name = true → y = x) ∧
        r.resolve name = some x ∧ r'.resolve name = some x := by
  have hys : ∀ y ∈ ys, y.Regular := fun y hy => hxs y (h.mem_iff.2 hy)
  refine ⟨?_, ?_⟩
  · rw [exists_registerAll_iff hxs, exists_registerAll_iff hys]
    exact h.pairwise_iff fun hab => by rwa [conflict_comm]
  · intro r r' hr hr'
    obtain ⟨hindexed, hall⟩ := Indexed.empty.of_registerAll hxs hr
    obtain ⟨hindexed', hall'⟩ := Indexed.empty.of_registerAll hys hr'
    change r.expressions = xs at hall
    change r'.expressions = ys at hall'
    refine ⟨?_, ?_⟩
    · intro name hone
      rw [hindexed.resolve_eq_find?, hindexed'.resolve_eq_find?, hall, hall']
      exact find?_perm h hone
    · intro x hx name hname
      rw [sameName_iff] at hname
      refine ⟨?_, ?_, ?_⟩
      · rw [← hall] at hx ⊢
        intro y hy hclaims
        exact hindexed.eq_of_claims hx hname hy hclaims
      · exact hindexed.resolve_eq_some (hall ▸ hx) hname
      · exact hindexed'.resolve_eq_some (hall' ▸ h.mem_iff.1 hx) hname

/-- Two expressions with further names, one of which is the same in both. -/
def clockwork : List Expression :=
  [.claiming "DATE" ["DATE", "TODAY", "DAY"], .claiming "Time" ["time", "NOW", "day"]]

/-- Only the name that both claim tells the orders apart. -/
theorem registerAll_perm_clockwork :
    clockwork.Perm clockwork.reverse ∧ (∀ x ∈ clockwork, x.Regular) ∧
      ∃ r r', empty.registerAll clockwork = .ok r ∧ empty.registerAll clockwork.reverse = .ok r' ∧
        r.resolve "now" = r'.resolve "now" ∧
        r.resolve "TIME" = some (.claiming "Time" ["time", "NOW", "day"]) ∧
        r'.resolve "TIME" = some (.claiming "Time" ["time", "NOW", "day"]) ∧
        (r.resolve "day").map Expression.identifier = some "DATE" ∧
        (r'.resolve "day").map Expression.identifier = some "Time" := by
  have hperm : clockwork.Perm clockwork.reverse := (List.reverse_perm clockwork).symm
  have hregular : ∀ x ∈ clockwork, x.Regular := by
    intro x hx
    simp only [clockwork, List.mem_cons, List.not_mem_nil, or_false] at hx
    rcases hx with rfl | rfl
    · exact ⟨by decide, rfl, Expression.ignoresCase_claiming _ _⟩
    · exact ⟨by decide, rfl, Expression.ignoresCase_claiming _ _⟩
  obtain ⟨hiff, hnames⟩ := registerAll_perm hperm hregular
  obtain ⟨r, hr⟩ : ∃ r, empty.registerAll clockwork = .ok r := ⟨_, rfl⟩
  obtain ⟨r', hr'⟩ := hiff.1 ⟨r, hr⟩
  obtain ⟨hone, hown⟩ := hnames r r' hr hr'
  refine ⟨hperm, hregular, r, r', hr, hr', ?_, ?_, ?_, ?_, ?_⟩
  · have hnow : ∀ x ∈ clockwork, x.claims "now" = true →
        x = .claiming "Time" ["time", "NOW", "day"] := by
      intro x hx hclaims
      simp only [clockwork, List.mem_cons, List.not_mem_nil, or_false] at hx
      rcases hx with rfl | rfl
      · exact absurd hclaims (by decide)
      · rfl
    apply hone
    intro x hx y hy hclaims hclaims'
    rw [hnow x hx hclaims, hnow y hy hclaims']
  · exact (hown _ (.tail _ (.head _)) "TIME" rfl).2.1
  · exact (hown _ (.tail _ (.head _)) "TIME" rfl).2.2
  · cases hr
    rfl
  · cases hr'
    rfl

end Registry

end Stencil
