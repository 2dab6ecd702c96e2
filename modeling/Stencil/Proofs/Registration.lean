import Stencil.Proofs.Histories

/-!
# Calls of registration

A history is a list of calls, some of which are refused (`Registry.ofHistory`). A call that is not
refused has one of two fates (`Registry.Fate`): its expression comes behind all others, or it takes
the place of one that has the same identifier, in whatever case. The second is possible only where
neither of the two claims the identifier that they share, because only claims are compared.

So registration is append-only but for these calls (`Registry.appendOnly_iff`). If every expression
claims its own identifier there are none of them, and then the index of identifiers never gives
another answer than asking the expressions in their order (`Registry.Indexed.resolve_eq_find?`).
-/

namespace Stencil

open Text

/-- What an expression claims does not depend on the case of letters. -/
def Expression.IgnoresCase (x : Expression) : Prop :=
  ∀ a b, fold a = fold b → x.claims a = x.claims b

/-- An expression that claims some names, and its own identifier only if that is one of them. -/
def Expression.claiming (identifier : String) (names : List String) : Expression where
  identifier := identifier
  description := ""
  claims name := names.any (sameName name)
  generate _ _ words := Expression.fixed "" words

theorem Expression.ignoresCase_claiming (identifier : String) (names : List String) :
    (claiming identifier names).IgnoresCase := by
  intro a b hab
  have hsame : sameName a = sameName b := by
    funext name
    rw [sameName, sameName, hab]
  exact congrArg names.any hsame

namespace Registry

variable {r r' : Registry} {x y : Expression} {identifier : String}

/-- The registry behind a call, which a refused one leaves as it was. -/
def attempt (r : Registry) (x : Expression) : Registry :=
  match r.register x with
  | .ok r' => r'
  | .error _ => r

/-- The registry behind a history of calls. -/
def ofHistory (history : List Expression) : Registry := history.foldl attempt .empty

theorem ofHistory_concat (history : List Expression) (x : Expression) :
    ofHistory (history ++ [x]) = (ofHistory history).attempt x := by
  rw [ofHistory, List.foldl_concat]
  rfl

theorem attempt_of_ok (h : r.register x = .ok r') : r.attempt x = r' := by
  rw [attempt, h]

theorem attempt_of_error {error : RegistryError} (h : r.register x = .error error) :
    r.attempt x = r := by
  rw [attempt, h]

theorem Reachable.attempt (h : Reachable r) (x : Expression) : Reachable (r.attempt x) := by
  cases hcall : r.register x with
  | ok r' =>
    rw [attempt_of_ok hcall]
    exact .register h hcall
  | error error =>
    rw [attempt_of_error hcall]
    exact h

theorem reachable_ofHistory (history : List Expression) : Reachable (ofHistory history) := by
  induction history using List.reverseRecOn with
  | nil => exact .empty
  | append_singleton history x ih =>
    rw [ofHistory_concat]
    exact ih.attempt x

/-! ### The fates of a call -/

theorem insert_of_not_mem {key : List Char} {entries : List (List Char × Expression)}
    (h : key ∉ entries.map Prod.fst) : insert key x entries = entries ++ [(key, x)] := by
  induction entries with
  | nil => rfl
  | cons p rest ih =>
    obtain ⟨k, old⟩ := p
    rw [List.map_cons, List.mem_cons, not_or] at h
    rw [insert, if_neg (by simpa using Ne.symm h.1), ih h.2, List.cons_append]

theorem insert_of_mem {key : List Char} {before after : List (List Char × Expression)}
    (h : key ∉ before.map Prod.fst) :
    insert key x (before ++ (key, y) :: after) = before ++ (key, x) :: after := by
  induction before with
  | nil => rw [List.nil_append, insert, if_pos (beq_self_eq_true key), List.nil_append]
  | cons p rest ih =>
    obtain ⟨k, old⟩ := p
    rw [List.map_cons, List.mem_cons, not_or] at h
    rw [List.cons_append, insert, if_neg (by simpa using Ne.symm h.1), ih h.2, List.cons_append]

/-- What becomes of a call: it is refused, its expression comes last, or it takes the place of the
    one under the same key. -/
inductive Fate (r : Registry) (x : Expression) : Registry → Prop
  | refused {error : RegistryError} (h : r.register x = .error error) : Fate r x r
  | appended (h : r.register x = .ok ⟨r.entries ++ [(fold x.identifier, x)]⟩)
      (hkey : fold x.identifier ∉ r.entries.map Prod.fst) :
      Fate r x ⟨r.entries ++ [(fold x.identifier, x)]⟩
  | replaced {before after : List (List Char × Expression)} {old : Expression}
      (hr : r.entries = before ++ (fold x.identifier, old) :: after)
      (h : r.register x = .ok ⟨before ++ (fold x.identifier, x) :: after⟩) :
      Fate r x ⟨before ++ (fold x.identifier, x) :: after⟩

theorem fate (r : Registry) (x : Expression) : Fate r x (r.attempt x) := by
  cases hcall : r.register x with
  | error error =>
    rw [attempt_of_error hcall]
    exact .refused hcall
  | ok r' =>
    have hr' := (register_eq_ok_iff.1 hcall).2.2
    rw [attempt_of_ok hcall, hr']
    rw [hr'] at hcall
    by_cases hkey : fold x.identifier ∈ r.entries.map Prod.fst
    · -- the first entry under the key is the one whose place is taken
      obtain ⟨keys, keys', hkeys, hfirst⟩ := List.eq_append_cons_of_mem hkey
      obtain ⟨before, rest, hr, rfl, hrest⟩ := List.map_eq_append_iff.1 hkeys
      obtain ⟨⟨key, old⟩, after, rfl, rfl, -⟩ := List.map_eq_cons_iff.1 hrest
      rw [hr, insert_of_mem hfirst] at hcall ⊢
      exact .replaced hr hcall
    · rw [insert_of_not_mem hkey] at hcall ⊢
      exact .appended hcall hkey

theorem Fate.subset (h : Fate r x r') : r'.expressions ⊆ x :: r.expressions := by
  cases h with
  | refused _ => exact List.subset_cons_self x r.expressions
  | appended _ _ =>
    intro e he
    rw [expressions, List.map_append, List.mem_append] at he
    rcases he with he | he
    · exact List.mem_cons_of_mem x he
    · rw [List.mem_singleton.1 he]
      exact List.mem_cons_self
  | replaced hr _ =>
    intro e he
    rw [expressions, List.map_append, List.map_cons, List.mem_append, List.mem_cons] at he
    rw [List.mem_cons, expressions, hr, List.map_append, List.map_cons, List.mem_append,
      List.mem_cons]
    rcases he with he | he | he
    · exact .inr (.inl he)
    · exact .inl he
    · exact .inr (.inr (.inr he))

theorem mem_of_mem_ofHistory {history : List Expression} :
    ∀ e ∈ (ofHistory history).expressions, e ∈ history := by
  induction history using List.reverseRecOn with
  | nil =>
    intro e he
    cases he
  | append_singleton history x ih =>
    intro e he
    rw [ofHistory_concat] at he
    rw [List.mem_append, List.mem_singleton]
    rcases List.mem_cons.1 ((fate _ x).subset he) with he | he
    · exact .inr he
    · exact .inl (ih e he)

/-! ### What appending keeps -/

/-- An expression has come behind all others, and what has been resolved is resolved as before. -/
structure Appends (r : Registry) (x : Expression) (r' : Registry) : Prop where
  expressions : r'.expressions = r.expressions ++ [x]
  size : r'.size = r.size + 1
  resolve : ∀ identifier e, r.resolve identifier = some e → r'.resolve identifier = some e

/-- A call either is refused and leaves the registry as it was, or appends its expression. -/
def AppendOnly (r : Registry) (x : Expression) : Prop :=
  (∃ error, r.register x = .error error ∧ r.attempt x = r) ∨
    ∃ r', r.register x = .ok r' ∧ r.attempt x = r' ∧ Appends r x r'

theorem expressions_append (r : Registry) (key : List Char) (x : Expression) :
    expressions ⟨r.entries ++ [(key, x)]⟩ = r.expressions ++ [x] := by
  rw [expressions, List.map_append]
  rfl

theorem lookup_singleton_of_ne {key key' : List Char} (h : key ≠ key') :
    [(key', x)].lookup key = none := by
  rw [List.lookup_cons, beq_false_of_ne h, List.lookup_nil]

theorem resolve_append (hcase : ∀ e ∈ r.expressions, e.IgnoresCase)
    (hok : r.register x = .ok ⟨r.entries ++ [(fold x.identifier, x)]⟩) {e : Expression}
    (h : r.resolve identifier = some e) :
    resolve ⟨r.entries ++ [(fold x.identifier, x)]⟩ identifier = some e := by
  obtain ⟨-, hconflict, -⟩ := register_eq_ok_iff.1 hok
  rw [resolve] at h
  rw [resolve, expressions_append, List.lookup_append]
  cases hlookup : r.entries.lookup (fold identifier) with
  | some e' =>
    rw [hlookup] at h
    exact h
  | none =>
    rw [hlookup] at h
    simp only at h
    -- the new key is not in question, since `e` would have claimed the new identifier
    have hne : fold identifier ≠ fold x.identifier := by
      intro heq
      have hclaims : e.claims identifier = true := by simpa using List.find?_some h
      have hmem := List.mem_of_find?_eq_some h
      rw [hcase e hmem _ _ heq] at hclaims
      have hno := hconflict e hmem
      rw [conflict, hclaims] at hno
      cases hno
    rw [lookup_singleton_of_ne hne, Option.none_or, List.find?_append, h]
    rfl

/-- A key is taken if an expression is registered under the same identifier, in whatever case. -/
theorem Keyed.mem_keys_iff (h : Keyed r) :
    fold x.identifier ∈ r.entries.map Prod.fst ↔
      ∃ old ∈ r.expressions, sameName old.identifier x.identifier = true := by
  constructor
  · intro hkey
    obtain ⟨⟨key, old⟩, hmem, hfst⟩ := List.mem_map.1 hkey
    have hold : key = fold old.identifier := h.key _ hmem
    exact ⟨old, List.mem_map.2 ⟨_, hmem, rfl⟩, sameName_iff.2 (hold.symm.trans hfst)⟩
  · rintro ⟨old, hold, hsame⟩
    obtain ⟨⟨key, old⟩, hmem, rfl⟩ := List.mem_map.1 hold
    have hkey : key = fold old.identifier := h.key _ hmem
    exact List.mem_map.2 ⟨_, hmem, hkey.trans (sameName_iff.1 hsame)⟩

/-- A call that takes a place adds none. -/
theorem size_of_mem_keys (hok : r.register x = .ok r')
    (hkey : fold x.identifier ∈ r.entries.map Prod.fst) : r'.size = r.size := by
  obtain ⟨-, -, rfl⟩ := register_eq_ok_iff.1 hok
  have hkeys := congrArg List.length (map_fst_insert (x := x) (fold x.identifier) r.entries)
  rw [if_pos hkey, List.length_map, List.length_map] at hkeys
  exact hkeys

/-- **Registration is append-only unless a key is taken.** After every history of calls with
    expressions that ignore the case of letters, a further call is refused or appends its
    expression, but for one case: its identifier is valid and no claim stands against it, and yet an
    expression is registered under the same identifier. -/
theorem appendOnly_iff (history : List Expression) (x : Expression)
    (hcase : ∀ e ∈ history, e.IgnoresCase) :
    (ofHistory history).AppendOnly x ↔
      ¬ (isIdentifier x.identifier = true ∧
        (∀ old ∈ (ofHistory history).expressions, conflict old x = false) ∧
        ∃ old ∈ (ofHistory history).expressions,
          sameName old.identifier x.identifier = true) := by
  have hkeyed := (reachable_ofHistory history).keyed
  have hcase' : ∀ e ∈ (ofHistory history).expressions, e.IgnoresCase :=
    fun e he => hcase e (mem_of_mem_ofHistory e he)
  generalize ofHistory history = r at hkeyed hcase'
  rw [← hkeyed.mem_keys_iff]
  constructor
  · rintro hcall ⟨hid, hconflict, hkey⟩
    have hok := register_eq_ok_iff.2 ⟨hid, hconflict, rfl⟩
    rcases hcall with ⟨error, herror, -⟩ | ⟨r', hok', -, happends⟩
    · rw [hok] at herror
      cases herror
    · have hsize := happends.size
      rw [size_of_mem_keys hok' hkey] at hsize
      omega
  · intro htaken
    have hattempt := fate r x
    generalize hr' : r.attempt x = r' at hattempt
    cases hattempt with
    | refused h => exact .inl ⟨_, h, hr'⟩
    | appended h hkey =>
      refine .inr ⟨_, h, hr', ⟨expressions_append r _ x, ?_, ?_⟩⟩
      · rw [size, List.length_append]
        rfl
      · exact fun identifier e he => resolve_append hcase' h he
    | replaced hr h =>
      obtain ⟨hid, hconflict, -⟩ := register_eq_ok_iff.1 h
      refine absurd ⟨hid, hconflict, ?_⟩ htaken
      rw [hr, List.map_append]
      exact List.mem_append_right _ List.mem_cons_self

/-- A claim can stand against an expression whose identifier is free. -/
theorem appendOnly_greeting :
    (∀ e ∈ [Expression.claiming "GREETING" ["HELLO"]], e.IgnoresCase) ∧
      (ofHistory [.claiming "GREETING" ["HELLO"]]).AppendOnly (.claiming "hello" []) := by
  have hcase : ∀ e ∈ [Expression.claiming "GREETING" ["HELLO"]], e.IgnoresCase :=
    List.forall_mem_singleton.2 (Expression.ignoresCase_claiming _ _)
  refine ⟨hcase, (appendOnly_iff _ _ hcase).2 ?_⟩
  rintro ⟨-, hconflict, -⟩
  have hno := hconflict (.claiming "GREETING" ["HELLO"]) List.mem_cons_self
  cases hno

/-- If neither of two expressions claims their common identifier, the second takes the place of the
    first, and what the first claims is forgotten. -/
theorem not_appendOnly_greeting :
    ¬ (ofHistory [.claiming "GREETING" ["HELLO"]]).AppendOnly (.claiming "greeting" ["HI"]) := by
  have hok : (ofHistory [.claiming "GREETING" ["HELLO"]]).register (.claiming "greeting" ["HI"]) =
      .ok ⟨[("GREETING".toList, .claiming "greeting" ["HI"])]⟩ := rfl
  rintro (⟨error, herror, -⟩ | ⟨r', hok', -, happends⟩)
  · rw [hok] at herror
    cases herror
  · rw [hok] at hok'
    cases hok'
    have hsize := happends.size
    cases hsize

/-! ### Expressions that claim themselves -/

/-- Every expression claims its own identifier in any case, and nobody else's. -/
structure Indexed (r : Registry) : Prop extends Keyed r where
  ignoresCase : ∀ x ∈ r.expressions, x.IgnoresCase
  claimsItself : ∀ x ∈ r.expressions, x.claims x.identifier = true
  separate : r.expressions.Pairwise fun x y => conflict x y = false

theorem Indexed.empty : Indexed .empty where
  toKeyed := .empty
  ignoresCase := List.forall_mem_nil _
  claimsItself := List.forall_mem_nil _
  separate := .nil

/-- Where the registered expressions claim themselves, no place is ever taken. -/
theorem Indexed.not_mem_keys (h : Indexed r) (hok : r.register x = .ok r') :
    fold x.identifier ∉ r.entries.map Prod.fst := by
  intro hkey
  obtain ⟨old, hold, hsame⟩ := h.mem_keys_iff.1 hkey
  have hclaims := h.claimsItself old hold
  rw [h.ignoresCase old hold _ _ (sameName_iff.1 hsame)] at hclaims
  have hno := (register_eq_ok_iff.1 hok).2.1 old hold
  rw [conflict, hclaims] at hno
  cases hno

theorem Indexed.register (h : Indexed r) (hcase : x.IgnoresCase)
    (hself : x.claims x.identifier = true) (hok : r.register x = .ok r') :
    Indexed r' ∧ r'.expressions = r.expressions ++ [x] := by
  have hkeyed := h.toKeyed.register hok
  have hkey := h.not_mem_keys hok
  obtain ⟨-, hconflict, rfl⟩ := register_eq_ok_iff.1 hok
  rw [insert_of_not_mem hkey] at hkeyed ⊢
  rw [expressions_append]
  refine ⟨⟨hkeyed, ?_, ?_, ?_⟩, rfl⟩
  · rw [expressions_append]
    exact List.forall_mem_append.2 ⟨h.ignoresCase, List.forall_mem_singleton.2 hcase⟩
  · rw [expressions_append]
    exact List.forall_mem_append.2 ⟨h.claimsItself, List.forall_mem_singleton.2 hself⟩
  · rw [expressions_append, List.pairwise_append]
    refine ⟨h.separate, List.pairwise_singleton _ _, ?_⟩
    intro old hold y hy
    rw [List.mem_singleton.1 hy]
    exact hconflict old hold

/-- A history of expressions that claim themselves leaves those that were not refused, in the order
    of the calls. -/
theorem indexed_ofHistory {history : List Expression} (hcase : ∀ e ∈ history, e.IgnoresCase)
    (hself : ∀ e ∈ history, e.claims e.identifier = true) :
    Indexed (ofHistory history) ∧ (ofHistory history).expressions.Sublist history := by
  induction history using List.reverseRecOn with
  | nil => exact ⟨.empty, List.Sublist.slnil⟩
  | append_singleton history x ih =>
    obtain ⟨hcase, hcaseX⟩ := List.forall_mem_append.1 hcase
    obtain ⟨hself, hselfX⟩ := List.forall_mem_append.1 hself
    obtain ⟨hindexed, hsub⟩ := ih hcase hself
    rw [ofHistory_concat]
    cases hcall : (ofHistory history).register x with
    | error error =>
      rw [attempt_of_error hcall]
      exact ⟨hindexed, hsub.trans (List.sublist_append_left history [x])⟩
    | ok r' =>
      obtain ⟨hindexed', happend⟩ := hindexed.register (hcaseX x (List.mem_singleton_self x))
        (hselfX x (List.mem_singleton_self x)) hcall
      rw [attempt_of_ok hcall, happend]
      exact ⟨hindexed', hsub.append (.refl [x])⟩

theorem Indexed.resolve_eq_find? (h : Indexed r) (identifier : String) :
    r.resolve identifier = r.expressions.find? fun e => e.claims identifier := by
  rw [resolve]
  cases hlookup : r.entries.lookup (fold identifier) with
  | none => rfl
  | some e =>
    obtain ⟨before, after, hr, -⟩ := List.lookup_eq_some_iff.1 hlookup
    have hfold : fold identifier = fold e.identifier :=
      h.key (fold identifier, e) (by rw [hr]; simp)
    have hsplit : r.expressions = before.map Prod.snd ++ e :: after.map Prod.snd := by
      rw [expressions, hr, List.map_append, List.map_cons]
    have hmem : ∀ old ∈ before.map Prod.snd, old ∈ r.expressions := by
      intro old hold
      rw [hsplit]
      exact List.mem_append_left _ hold
    have he : e ∈ r.expressions := by
      rw [hsplit]
      exact List.mem_append_right _ List.mem_cons_self
    refine (List.find?_eq_some_iff_append.2 ⟨?_, _, _, hsplit, ?_⟩).symm
    · rw [h.ignoresCase e he _ _ hfold]
      exact h.claimsItself e he
    · -- whoever comes earlier does not claim the identifier of `e`, in no case of its letters
      intro old hold
      have hseparate := h.separate
      rw [hsplit, List.pairwise_append] at hseparate
      have hno := hseparate.2.2 old hold e List.mem_cons_self
      rw [conflict, Bool.or_eq_false_iff] at hno
      rw [h.ignoresCase old (hmem old hold) _ _ hfold, hno.1]
      rfl

theorem Indexed.resolve_congr (h : Indexed r) {a b : String} (hab : fold a = fold b) :
    r.resolve a = r.resolve b := by
  rw [h.resolve_eq_find?, h.resolve_eq_find?]
  exact List.find?_congr fun e he => h.ignoresCase e he a b hab

/-- **The index answers as the expressions do.** -/
theorem resolve_eq_first_claim (history : List Expression)
    (hcase : ∀ e ∈ history, e.IgnoresCase)
    (hself : ∀ e ∈ history, e.claims e.identifier = true) :
    (ofHistory history).expressions.Sublist history ∧
    (∀ identifier, (ofHistory history).resolve identifier =
      (ofHistory history).expressions.find? fun e => e.claims identifier) ∧
    ((ofHistory history).expressions.Pairwise fun x y =>
      x.claims y.identifier = false ∧ y.claims x.identifier = false) ∧
    ∀ a b, sameName a b = true → (ofHistory history).resolve a = (ofHistory history).resolve b := by
  obtain ⟨hindexed, hsub⟩ := indexed_ofHistory hcase hself
  refine ⟨hsub, hindexed.resolve_eq_find?, ?_, ?_⟩
  · refine hindexed.separate.imp ?_
    intro x y hxy
    exact Bool.or_eq_false_iff.1 hxy
  · intro a b hab
    exact hindexed.resolve_congr (sameName_iff.1 hab)

/-- Calls for expressions with a second name, which one of them tries to take. -/
def calendarHistory : List Expression :=
  [.claiming "DATE" ["DATE", "TODAY"], .claiming "Today" ["Today"], .claiming "NOW" ["NOW"]]

theorem resolve_eq_first_claim_today :
    (∀ e ∈ calendarHistory, e.IgnoresCase) ∧
      (∀ e ∈ calendarHistory, e.claims e.identifier = true) ∧
      (ofHistory calendarHistory).resolve "today" =
        some (.claiming "DATE" ["DATE", "TODAY"]) := by
  have hcase : ∀ e ∈ calendarHistory, e.IgnoresCase := by
    intro e he
    simp only [calendarHistory, List.mem_cons, List.not_mem_nil, or_false] at he
    rcases he with rfl | rfl | rfl <;> exact Expression.ignoresCase_claiming _ _
  have hself : ∀ e ∈ calendarHistory, e.claims e.identifier = true := by
    intro e he
    simp only [calendarHistory, List.mem_cons, List.not_mem_nil, or_false] at he
    rcases he with rfl | rfl | rfl <;> rfl
  refine ⟨hcase, hself, ?_⟩
  rw [(resolve_eq_first_claim calendarHistory hcase hself).2.1]
  rfl

end Registry

end Stencil
