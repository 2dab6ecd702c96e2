import Mathlib
import Stencil.Expression.Registry

/-!
# What registration keeps

The registries that can come about are those reached from the empty one by registering
expressions (`Registry.Reachable`); an expression that is refused leaves no trace. Whatever the
expressions claim, such a registry holds each of them under its own identifier in upper case, and
no key twice (`Registry.Keyed`). So every registered expression is what its identifier resolves to,
in any case of its letters.
-/

namespace Stencil

open Text

/-! ### Identifiers in upper case -/

namespace Text

theorem isNameChar_toUpper (c : Char) : isNameChar c.toUpper = isNameChar c := by
  by_cases h : c.isLower = true
  · have halpha : c.isAlpha = true := by rw [Char.isAlpha, h, Bool.or_true]
    rw [isNameChar, isNameChar, Char.isAlphanum, Char.isAlphanum,
      Char.isAlpha_toUpper_eq_isAlpha, halpha]
    rfl
  · rw [Char.toUpper_eq_of_not_isLower h]

theorem isIdentifier_iff {s : String} :
    isIdentifier s = true ↔ s.toList ≠ [] ∧ ∀ c ∈ s.toList, isNameChar c = true := by
  simp only [isIdentifier, Bool.and_eq_true, Bool.not_eq_true', List.all_eq_true]
  refine and_congr_left fun _ => ?_
  rw [← Bool.not_eq_true, String.isEmpty_iff, ← String.toList_eq_nil_iff]

/-- Whether a text is an identifier does not depend on the case of its letters. -/
theorem isIdentifier_of_fold_eq {s t : String} (h : fold s = fold t)
    (ht : isIdentifier t = true) : isIdentifier s = true := by
  obtain ⟨hne, hall⟩ := isIdentifier_iff.1 ht
  refine isIdentifier_iff.2 ⟨?_, ?_⟩
  · intro hs
    apply hne
    have hlen := congrArg List.length h
    rw [fold, fold, List.length_map, List.length_map, hs] at hlen
    exact List.length_eq_zero_iff.1 hlen.symm
  · intro c hc
    have hmem : c.toUpper ∈ fold t := h ▸ List.mem_map_of_mem hc
    obtain ⟨b, hb, hbc⟩ := List.mem_map.1 hmem
    rw [← isNameChar_toUpper, ← hbc, isNameChar_toUpper]
    exact hall b hb

end Text

namespace Registry

variable {r r' : Registry} {x : Expression}

/-! ### Registries that come about -/

/-- A registry that is reached from the empty one by registering expressions one after another. -/
inductive Reachable : Registry → Prop
  | empty : Reachable .empty
  | register {r r' : Registry} {x : Expression} (hr : Reachable r) (hok : r.register x = .ok r') :
      Reachable r'

/-- What is asked of an expression that is registered, and what comes of it. -/
theorem register_eq_ok_iff :
    r.register x = .ok r' ↔
      isIdentifier x.identifier = true ∧ (∀ old ∈ r.expressions, conflict old x = false) ∧
        r' = ⟨insert (fold x.identifier) x r.entries⟩ := by
  unfold register
  by_cases hid : isIdentifier x.identifier = true
  · simp only [hid, Bool.not_true, Bool.false_eq_true, if_false, true_and]
    cases hfind : r.expressions.find? fun old => conflict old x with
    | none =>
      have hnone : ∀ old ∈ r.expressions, conflict old x = false := fun old hold =>
        Bool.eq_false_iff.2 (List.find?_eq_none.1 hfind old hold)
      rw [and_iff_right hnone, Except.ok.injEq, eq_comm]
    | some old =>
      have hconflict := List.find?_some hfind
      constructor
      · intro h
        cases h
      · intro h
        rw [h.1 old (List.mem_of_find?_eq_some hfind)] at hconflict
        cases hconflict
  · simp [hid]

/-! ### Keys -/

theorem mem_insert {key : List Char} {entries : List (List Char × Expression)}
    {p : List Char × Expression} (h : p ∈ insert key x entries) : p = (key, x) ∨ p ∈ entries := by
  induction entries with
  | nil => exact .inl (List.mem_singleton.1 h)
  | cons q rest ih =>
    obtain ⟨k, old⟩ := q
    rw [insert] at h
    split at h
    · next hk =>
      rcases List.mem_cons.1 h with rfl | hrest
      · exact .inl (by rw [beq_iff_eq.1 hk])
      · exact .inr (List.mem_cons_of_mem _ hrest)
    · rcases List.mem_cons.1 h with rfl | hrest
      · exact .inr List.mem_cons_self
      · exact (ih hrest).imp_right (List.mem_cons_of_mem _)

theorem map_fst_insert (key : List Char) (entries : List (List Char × Expression)) :
    (insert key x entries).map Prod.fst =
      if key ∈ entries.map Prod.fst then entries.map Prod.fst
      else entries.map Prod.fst ++ [key] := by
  induction entries with
  | nil => rfl
  | cons q rest ih =>
    obtain ⟨k, old⟩ := q
    rw [insert]
    by_cases hk : k = key
    · simp [hk]
    · have hne : (k == key) = false := beq_eq_false_iff_ne.2 hk
      simp only [hne, Bool.false_eq_true, if_false, List.map_cons, ih, List.mem_cons,
        Ne.symm hk, false_or]
      split <;> rfl

/-- Every expression stands under its own identifier, which is one, and no key stands twice. -/
structure Keyed (r : Registry) : Prop where
  key : ∀ p ∈ r.entries, p.1 = fold p.2.identifier
  identifier : ∀ p ∈ r.entries, isIdentifier p.2.identifier = true
  nodup : (r.entries.map Prod.fst).Nodup

theorem Keyed.empty : Keyed .empty where
  key := List.forall_mem_nil _
  identifier := List.forall_mem_nil _
  nodup := List.nodup_nil

theorem Keyed.register (h : Keyed r) (hok : r.register x = .ok r') : Keyed r' := by
  obtain ⟨hid, -, rfl⟩ := register_eq_ok_iff.1 hok
  refine ⟨?_, ?_, ?_⟩
  · intro p hp
    rcases mem_insert hp with rfl | hp
    · rfl
    · exact h.key p hp
  · intro p hp
    rcases mem_insert hp with rfl | hp
    · exact hid
    · exact h.identifier p hp
  · rw [map_fst_insert]
    split
    · exact h.nodup
    · next hnew =>
      rw [← List.concat_eq_append]
      exact h.nodup.concat hnew

theorem Reachable.keyed (h : Reachable r) : Keyed r := by
  induction h with
  | empty => exact .empty
  | register _ hok ih => exact ih.register hok

/-- The keys say nothing that the expressions do not say. -/
theorem Keyed.entries_eq (h : Keyed r) :
    r.entries = r.expressions.map fun x => (fold x.identifier, x) := by
  rw [expressions, List.map_map, List.map_congr_left, List.map_id]
  intro p hp
  exact Prod.ext (h.key p hp).symm rfl

/-! ### Resolving a registered expression -/

theorem lookup_eq_some_of_mem {entries : List (List Char × Expression)} {key : List Char}
    (hnodup : (entries.map Prod.fst).Nodup) (hmem : (key, x) ∈ entries) :
    entries.lookup key = some x := by
  obtain ⟨l₁, l₂, rfl⟩ := List.append_of_mem hmem
  refine List.lookup_eq_some_iff.2 ⟨l₁, l₂, rfl, ?_⟩
  intro p hp
  rw [List.map_append, List.map_cons] at hnodup
  have hne := (List.nodup_append.1 hnodup).2.2 p.1 (List.mem_map_of_mem hp) key List.mem_cons_self
  exact bne_iff_ne.2 (Ne.symm hne)

/-- **A registered expression is what its identifier resolves to**, in any case of its letters. -/
theorem Keyed.resolve_eq_some (h : Keyed r) (hx : x ∈ r.expressions) {identifier : String}
    (hid : fold identifier = fold x.identifier) : r.resolve identifier = some x := by
  obtain ⟨⟨key, y⟩, hmem, rfl⟩ := List.mem_map.1 hx
  have hkey : key = fold y.identifier := h.key _ hmem
  rw [resolve, hid, ← hkey, lookup_eq_some_of_mem h.nodup hmem]

end Registry

end Stencil
