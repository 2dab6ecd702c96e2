import Stencil.Expression.Builtin
import Stencil.Proofs.Registration

/-!
# The engine of a configuration

The built-in expressions claim their own identifiers and nothing else, and their identifiers differ,
so that all of them are registered under every configuration (`Engine.exists_ofConfig`): the engine
of a configuration exists, and its registry holds them in their order.
-/

namespace Stencil

open Text

/-! ### Registering a list of expressions -/

/-- The expression claims its own identifier in any case, and nothing else. -/
def Expression.IsPlain (x : Expression) : Prop := x.claims = sameName x.identifier

theorem Expression.IsPlain.ignoresCase {x : Expression} (h : x.IsPlain) : x.IgnoresCase := by
  intro a b hab
  rw [h, sameName, sameName, hab]

theorem Expression.IsPlain.claims_self {x : Expression} (h : x.IsPlain) :
    x.claims x.identifier = true := by
  rw [h]
  exact sameName_self x.identifier

namespace Registry

variable {r : Registry} {xs : List Expression}

/-- Expressions that claim themselves are all registered, if no two of them conflict. -/
theorem Indexed.registerAll (h : Indexed r)
    (hid : ∀ x ∈ xs, isIdentifier x.identifier = true) (hcase : ∀ x ∈ xs, x.IgnoresCase)
    (hself : ∀ x ∈ xs, x.claims x.identifier = true)
    (hseparate : (r.expressions ++ xs).Pairwise fun x y => conflict x y = false) :
    ∃ r', r.registerAll xs = .ok r' ∧ Indexed r' ∧ r'.expressions = r.expressions ++ xs := by
  induction xs generalizing r with
  | nil => exact ⟨r, rfl, h, (List.append_nil _).symm⟩
  | cons x xs ih =>
    obtain ⟨hidX, hid⟩ := List.forall_mem_cons.1 hid
    obtain ⟨hcaseX, hcase⟩ := List.forall_mem_cons.1 hcase
    obtain ⟨hselfX, hself⟩ := List.forall_mem_cons.1 hself
    have hnone : ∀ old ∈ r.expressions, conflict old x = false := by
      intro old hold
      exact (List.pairwise_append.1 hseparate).2.2 old hold x List.mem_cons_self
    have hok := register_eq_ok_iff.2 ⟨hidX, hnone, rfl⟩
    obtain ⟨hindexed, happend⟩ := h.register hcaseX hselfX hok
    rw [← List.singleton_append, ← List.append_assoc, ← happend] at hseparate
    obtain ⟨r', hr', hindexed', hall⟩ := ih hindexed hid hcase hself hseparate
    refine ⟨r', ?_, hindexed', ?_⟩
    · rw [Registry.registerAll, hok]
      exact hr'
    · rw [hall, happend, List.append_assoc, List.singleton_append]

theorem conflict_of_isPlain {x y : Expression} (hx : x.IsPlain) (hy : y.IsPlain)
    (h : sameName x.identifier y.identifier = false) : conflict x y = false := by
  rw [conflict, hx, hy, h]
  rw [← Bool.not_eq_true, sameName_iff] at h
  rw [Bool.false_or, ← Bool.not_eq_true, sameName_iff]
  exact fun heq => h heq.symm

end Registry

/-! ### The built-in expressions -/

/-- The identifiers of the built-in expressions do not depend on the length of strings. -/
def Expression.builtinIdentifiers (environment : Bool) : List String :=
  ["RANDOM_DATE", "RANDOM_DATE_TIME", "RANDOM_TIMESTAMP", "RANDOM_INTEGER", "RANDOM_LONG",
    "RANDOM_DECIMAL", "RANDOM_BOOLEAN", "RANDOM_UUID", "RANDOM_STRING", "RANDOM_PASSWORD",
    "RANDOM_EMAIL", "RANDOM_ENUM"] ++
  if environment then ["ENVIRONMENT_VARIABLE"] else []

theorem Expression.builtinIdentifiers_separate (environment : Bool) :
    (∀ i ∈ builtinIdentifiers environment, isIdentifier i = true) ∧
      (builtinIdentifiers environment).Pairwise fun i j => sameName i j = false := by
  cases environment <;> decide +kernel

variable [Dice]

/-- The built-in expressions that are there under all settings. -/
def Expression.generators (s : Settings) : List Expression :=
  [Time.date, Time.dateTime, Time.timestamp, Bounds.integer32, Bounds.integer64,
    Bounds.decimalNumber, Choice.boolean, Choice.uuid, Letters.string s.stringLength,
    Letters.passphrase s.stringLength, Letters.email, Choice.enumeration]

theorem Expression.mem_builtins_iff {s : Settings} {x : Expression} :
    x ∈ builtins s ↔ x ∈ generators s ∨ (s.environment = true ∧ x = Variable.variableValue) := by
  have hvariable : x ∈ (if s.environment = true then [Variable.variableValue] else []) ↔
      s.environment = true ∧ x = Variable.variableValue := by
    cases s.environment <;> simp
  exact List.mem_append.trans (or_congr_right hvariable)

theorem Expression.isPlain_of_mem_builtins {s : Settings} :
    ∀ x ∈ builtins s, x.IsPlain := by
  intro x hx
  rcases mem_builtins_iff.1 hx with hx | ⟨-, rfl⟩
  · simp only [generators, List.mem_cons, List.not_mem_nil, or_false] at hx
    rcases hx with rfl | rfl | rfl | rfl | rfl | rfl | rfl | rfl | rfl | rfl | rfl | rfl <;> rfl
  · rfl

theorem Expression.map_identifier_builtins (s : Settings) :
    (builtins s).map identifier = builtinIdentifiers s.environment := by
  rw [builtins, builtinIdentifiers]
  cases s.environment <;> rfl

namespace Registry

theorem exists_builtin (s : Settings) :
    ∃ r, builtin s = .ok r ∧ Indexed r ∧ r.expressions = Expression.builtins s := by
  obtain ⟨hid, hseparate⟩ := Expression.builtinIdentifiers_separate s.environment
  have hplain := Expression.isPlain_of_mem_builtins (s := s)
  rw [← Expression.map_identifier_builtins] at hid hseparate
  have hconflict : (Expression.builtins s).Pairwise fun x y => conflict x y = false := by
    refine (List.pairwise_map.1 hseparate).imp_of_mem ?_
    intro x y hx hy hxy
    exact conflict_of_isPlain (hplain x hx) (hplain y hy) hxy
  exact Indexed.empty.registerAll (fun x hx => hid _ (List.mem_map_of_mem hx))
    (fun x hx => (hplain x hx).ignoresCase) (fun x hx => (hplain x hx).claims_self) hconflict

end Registry

/-- Under every configuration there is an engine, and it has the built-in expressions. -/
theorem Engine.exists_ofConfig (c : Config) :
    ∃ r, ofConfig c = .ok ⟨r, c.delimiters, c.limits⟩ ∧ r.Indexed ∧
      r.expressions = Expression.builtins c.settings := by
  obtain ⟨r, hr, hindexed, hexpressions⟩ := Registry.exists_builtin c.settings
  refine ⟨r, ?_, hindexed, hexpressions⟩
  unfold ofConfig
  rw [hr]

/-- The engine of a configuration, written out. -/
theorem Engine.ofConfig_eq (c : Config) :
    ofConfig c = .ok ⟨⟨(Expression.builtins c.settings).map fun x => (fold x.identifier, x)⟩,
      c.delimiters, c.limits⟩ := by
  obtain ⟨r, he, hindexed, hexpressions⟩ := exists_ofConfig c
  have hentries := hindexed.entries_eq
  rw [hexpressions] at hentries
  obtain ⟨entries⟩ := r
  obtain rfl := hentries
  exact he

end Stencil
