import Stencil.Proofs.Builtins

/-!
# Free names

Whatever the expressions of a registry claim, one that claims its own identifier and nothing else is
registered if and only if its identifier resolves to nothing. Registration asks for claims in both
directions, while resolving looks for the key first and then asks for the claims of the others; the
two come to the same, because every registered expression stands under its own identifier
(`Registry.Keyed`).

Afterwards the new expression answers to its identifier in any case of the letters, also where
another one claims that spelling, and to all other names the registry answers as before.
-/

namespace Stencil

open Text

namespace Registry

variable {r r' : Registry} {x : Expression} {name : String}

theorem resolve_eq_none_iff :
    r.resolve name = none ↔
      fold name ∉ r.entries.map Prod.fst ∧ ∀ old ∈ r.expressions, old.claims name = false := by
  rw [resolve]
  cases hlookup : r.entries.lookup (fold name) with
  | some old =>
    obtain ⟨before, after, hr, -⟩ := List.lookup_eq_some_iff.1 hlookup
    have hkey : fold name ∈ r.entries.map Prod.fst := by
      rw [hr, List.map_append, List.map_cons]
      exact List.mem_append_right _ List.mem_cons_self
    constructor
    · intro h
      cases h
    · rintro ⟨hfree, -⟩
      exact absurd hkey hfree
  | none =>
    have hkey : fold name ∉ r.entries.map Prod.fst := by
      intro hmem
      obtain ⟨p, hp, hfst⟩ := List.mem_map.1 hmem
      have hno := List.lookup_eq_none_iff.1 hlookup p hp
      rw [hfst, bne_self_eq_false] at hno
      cases hno
    rw [and_iff_right hkey]
    simp only [List.find?_eq_none, Bool.not_eq_true]

/-- Nothing stands in the way of an expression that claims its own identifier only, if and only if
    that identifier resolves to nothing. -/
theorem Keyed.forall_conflict_iff (h : Keyed r) (hplain : x.IsPlain) :
    (∀ old ∈ r.expressions, conflict old x = false) ↔ r.resolve x.identifier = none := by
  have hconflict : ∀ old, conflict old x = false ↔
      old.claims x.identifier = false ∧ ¬ sameName old.identifier x.identifier = true := by
    intro old
    rw [conflict, hplain, Bool.or_eq_false_iff, ← Bool.not_eq_true (sameName _ _), sameName_iff,
      sameName_iff, eq_comm (a := fold x.identifier)]
  -- the key is asked for on one side and the identifiers on the other, which is the same when keyed
  rw [resolve_eq_none_iff, h.mem_keys_iff]
  simp only [hconflict]
  constructor
  · intro hall
    refine ⟨?_, fun old hold => (hall old hold).1⟩
    rintro ⟨old, hold, hsame⟩
    exact (hall old hold).2 hsame
  · rintro ⟨hfree, hclaims⟩ old hold
    exact ⟨hclaims old hold, fun hsame => hfree ⟨old, hold, hsame⟩⟩

/-- A name that the expression behind all others does not claim, and that is not its identifier, is
    resolved as without it. -/
theorem resolve_append_of_ne (hne : fold name ≠ fold x.identifier)
    (hclaims : x.claims name = false) :
    resolve ⟨r.entries ++ [(fold x.identifier, x)]⟩ name = r.resolve name := by
  have hlast : [x].find? (fun e => e.claims name) = none := by
    rw [List.find?_cons, hclaims, List.find?_nil]
  rw [resolve, resolve, expressions_append, List.lookup_append, lookup_singleton_of_ne hne,
    Option.or_none, List.find?_append, hlast, Option.or_none]

/-- An expression that claims its own identifier only is never put in the place of another one. -/
theorem Keyed.register_plain (h : Keyed r) (hplain : x.IsPlain) (hok : r.register x = .ok r') :
    r' = ⟨r.entries ++ [(fold x.identifier, x)]⟩ := by
  obtain ⟨-, hconflict, rfl⟩ := register_eq_ok_iff.1 hok
  have hfree := (h.forall_conflict_iff hplain).1 hconflict
  rw [insert_of_not_mem (resolve_eq_none_iff.1 hfree).1]

/-- **A plain expression is registered exactly if its identifier is free.** Behind a history of
    calls, with whatever claims, an expression that claims its own identifier only is registered if
    and only if that identifier resolves to nothing. Then it is what its identifier resolves to, in
    any case of the letters; every other name is resolved as before; and its identifier comes behind
    the others. -/
theorem register_iff_free (history : List Expression) (x : Expression) (hplain : x.IsPlain)
    (hid : isIdentifier x.identifier = true) :
    ((∃ r', (ofHistory history).register x = .ok r') ↔
      (ofHistory history).resolve x.identifier = none) ∧
    ∀ r', (ofHistory history).register x = .ok r' →
      (∀ name, sameName name x.identifier = true → r'.resolve name = some x) ∧
      (∀ name, sameName name x.identifier = false →
        r'.resolve name = (ofHistory history).resolve name) ∧
      r'.identifiers = (ofHistory history).identifiers ++ [x.identifier] := by
  have hkeyed := (reachable_ofHistory history).keyed
  refine ⟨?_, ?_⟩
  · rw [← hkeyed.forall_conflict_iff hplain]
    constructor
    · rintro ⟨r', hok⟩
      exact (register_eq_ok_iff.1 hok).2.1
    · intro hconflict
      exact ⟨_, register_eq_ok_iff.2 ⟨hid, hconflict, rfl⟩⟩
  · intro r' hok
    have hkeyed' := hkeyed.register hok
    obtain rfl := hkeyed.register_plain hplain hok
    refine ⟨?_, ?_, ?_⟩
    · -- the key is looked up before any claim is asked for
      intro name hname
      refine hkeyed'.resolve_eq_some ?_ (sameName_iff.1 hname)
      rw [expressions_append]
      exact List.mem_append_right _ (List.mem_singleton_self x)
    · intro name hname
      have hne : fold name ≠ fold x.identifier := by
        rwa [← Bool.not_eq_true, sameName_iff] at hname
      refine resolve_append_of_ne hne ?_
      rw [hplain, ← Bool.not_eq_true, sameName_iff]
      exact hne.symm
    · rw [identifiers, expressions_append, List.map_append]
      rfl

/-- An expression that does not claim its own identifier, and one that claims a single spelling of a
    name. -/
def unevenHistory : List Expression :=
  [.claiming "GREETING" ["HELLO"], ⟨"SALUTE", "", (· == "hi"), fun _ _ => Expression.fixed "hi"⟩]

/-- The one spelling goes over to the new expression, and only that. -/
theorem register_iff_free_hi :
    ∃ r', (ofHistory unevenHistory).register (.plain "HI" "" fun _ _ => Expression.fixed "") =
        .ok r' ∧
      ((ofHistory unevenHistory).resolve "hi").map Expression.identifier = some "SALUTE" ∧
      (r'.resolve "hi").map Expression.identifier = some "HI" ∧
      (r'.resolve "hello").map Expression.identifier = some "GREETING" ∧
      r'.identifiers = ["GREETING", "SALUTE", "HI"] := by
  obtain ⟨hiff, hthen⟩ := register_iff_free unevenHistory
    (.plain "HI" "" fun _ _ => Expression.fixed "") rfl (by decide)
  obtain ⟨r', hok⟩ := hiff.2 rfl
  obtain ⟨hname, hother, hidentifiers⟩ := hthen r' hok
  refine ⟨r', hok, rfl, ?_, ?_, hidentifiers⟩
  · rw [hname "hi" rfl]
    rfl
  · rw [hother "hello" rfl]
    rfl

end Registry

end Stencil
