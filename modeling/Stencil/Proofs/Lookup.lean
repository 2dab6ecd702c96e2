import Stencil.Proofs.Builtins

/-!
# Arguments are looked up

A call is seen through its positional arguments in their order and through the first argument of
every name. Two calls that do not differ in these (`Call.LooksLike`) get the same text from every
built-in expression, in the same world and from the same random words, and leave the same words
behind; their records may still name the calls as they were written.

So arguments can be written in several ways (`Argument.Restated`): those that are not looked up by
each other's place or name can trade places, a name can be written in another case, and an argument
whose name has been given before can be left out.

What is read from an argument that has been looked up is said without its reader (`Call.Gives`).
-/

namespace Stencil

open Text

/-! ### Calls that look alike -/

namespace Call

variable {c c' : Call} {identifier : String}

theorem named?_cons (a : Argument) (l : List Argument) (name : String) :
    (mk identifier (a :: l)).named? name =
      if a.hasName name then some a.value else (mk identifier l).named? name := by
  simp only [named?, List.find?_cons]
  cases a.hasName name <;> rfl

theorem named?_append (l l' : List Argument) (name : String) :
    (mk identifier (l ++ l')).named? name =
      ((mk identifier l).named? name).or ((mk identifier l').named? name) := by
  simp only [named?, List.find?_append, Option.map_or]

/-- The two have the same positional arguments, and for every name the same first argument. -/
structure LooksLike (c c' : Call) : Prop where
  positionals : c.positionals = c'.positionals
  named? : ∀ name, c.named? name = c'.named? name

theorem LooksLike.trans {c'' : Call} (h : c.LooksLike c') (h' : c'.LooksLike c'') :
    c.LooksLike c'' :=
  ⟨h.positionals.trans h'.positionals, fun name => (h.named? name).trans (h'.named? name)⟩

theorem LooksLike.lookup? (h : c.LooksLike c') (name : String) (index : Nat) :
    c.lookup? name index = c'.lookup? name index := by
  rw [Call.lookup?, Call.lookup?, h.named?, positional?, positional?, h.positionals]

theorem LooksLike.value_read (h : c.LooksLike c') {α : Type} (read? : List Char → Option α)
    (name : String) (index : Nat) (fallback : α) (shown : String) :
    (c.read read? name index fallback shown).value =
      (c'.read read? name index fallback shown).value := by
  rw [read, read, h.lookup?]
  cases c'.lookup? name index with
  | none => rfl
  | some raw =>
    simp only
    cases read? (trim raw.toList) <;> rfl

/-- What an argument stands for: the value that its text spells, blanks around it aside. If there is
    no argument, or if it spells nothing, a default takes its place. -/
inductive Gives {α : Type} (spells : List Char → α → Prop) (fallback : α) :
    Option String → α → Prop
  | spelled {text : String} {v : α} (h : spells (trim text.toList) v) :
      Gives spells fallback (some text) v
  | unreadable {text : String} (h : ∀ v, ¬ spells (trim text.toList) v) :
      Gives spells fallback (some text) fallback
  | missing : Gives spells fallback none fallback

theorem gives_iff {α : Type} {read? : List Char → Option α} {spells : List Char → α → Prop}
    (hread : ∀ s v, read? s = some v ↔ spells s v) (c : Call) (name : String) (index : Nat)
    (fallback : α) (shown : String) (v : α) :
    Gives spells fallback (c.lookup? name index) v ↔
      v = (c.read read? name index fallback shown).value := by
  rw [read]
  cases c.lookup? name index with
  | none =>
    constructor
    · rintro ⟨⟩
      rfl
    · rintro rfl
      exact .missing
  | some raw =>
    dsimp only
    cases hraw : read? (trim raw.toList) with
    | none =>
      have hno : ∀ v, ¬ spells (trim raw.toList) v := by
        intro v hv
        rw [(hread _ v).2 hv] at hraw
        cases hraw
      constructor
      · rintro (hv | hv)
        · exact absurd hv (hno _)
        · rfl
      · rintro rfl
        exact .unreadable hno
    | some value =>
      have hvalue := (hread _ value).1 hraw
      constructor
      · rintro (hv | hv)
        · exact Option.some.inj (((hread _ _).2 hv).symm.trans hraw)
        · exact absurd hvalue (hv value)
      · rintro rfl
        exact .spelled hvalue

end Call

/-! ### Arguments written in another way -/

namespace Argument

variable {l l' : List Argument}

/-- At least one of the two has a name, and the other one does not have the same. -/
def Apart (a b : Argument) : Prop :=
  match a.name, b.name with
  | none, none => False
  | some n, some n' => sameName n n' = false
  | _, _ => True

/-- The second list says what the first one says. -/
inductive Restated : List Argument → List Argument → Prop
  | swapped {a b : Argument} (before after : List Argument) (h : a.Apart b) :
      Restated (before ++ a :: b :: after) (before ++ b :: a :: after)
  | renamed {n n' : String} (before after : List Argument) (value : String)
      (h : sameName n n' = true) :
      Restated (before ++ named n value :: after) (before ++ named n' value :: after)
  | repeated {n n' : String} (before between after : List Argument) (value value' : String)
      (h : sameName n n' = true) :
      Restated (before ++ named n value :: (between ++ named n' value' :: after))
        (before ++ named n value :: (between ++ after))

theorem hasName_congr {n n' : String} (h : sameName n n' = true) (value value' name : String) :
    (named n value).hasName name = (named n' value').hasName name := by
  change sameName n name = sameName n' name
  rw [sameName, sameName, sameName_iff.1 h]

theorem Apart.hasName {a b : Argument} (h : a.Apart b) {name : String}
    (ha : a.hasName name = true) : b.hasName name = false := by
  obtain ⟨_ | n, v⟩ := a
  · cases ha
  · obtain ⟨_ | n', v'⟩ := b
    · rfl
    · -- both would have that name
      by_contra hb
      rw [Bool.not_eq_false] at hb
      have hsame : sameName n n' = true :=
        sameName_iff.2 ((sameName_iff.1 ha).trans (sameName_iff.1 hb).symm)
      have hno : sameName n n' = false := h
      rw [hsame] at hno
      cases hno

theorem Apart.filter_swap {a b : Argument} (h : a.Apart b) (l : List Argument) :
    (a :: b :: l).filter (fun a => a.name.isNone) =
      (b :: a :: l).filter fun a => a.name.isNone := by
  obtain ⟨_ | n, v⟩ := a <;> obtain ⟨_ | n', v'⟩ := b
  · exact h.elim
  all_goals simp

theorem Restated.looksLike (h : Restated l l') (identifier : String) :
    (Call.mk identifier l).LooksLike ⟨identifier, l'⟩ := by
  cases h with
  | @swapped a b before after h =>
    constructor
    · simp only [Call.positionals, List.filter_append, h.filter_swap]
    · intro name
      simp only [Call.named?_append, Call.named?_cons]
      cases ha : a.hasName name with
      | false => rfl
      | true =>
        rw [h.hasName ha]
        rfl
  | @renamed n n' before after value h =>
    constructor
    · simp [Call.positionals, named]
    · intro name
      simp only [Call.named?_append, Call.named?_cons, hasName_congr h value value name]
      rfl
  | @repeated n n' before between after value value' h =>
    constructor
    · simp [Call.positionals, named]
    · intro name
      simp only [Call.named?_append, Call.named?_cons, ← hasName_congr h value value' name]
      cases (named n value).hasName name with
      | true => rfl
      | false => rfl

theorem looksLike_of_restatements (h : Relation.ReflTransGen Restated l l')
    (identifier identifier' : String) :
    (Call.mk identifier l).LooksLike ⟨identifier', l'⟩ := by
  induction h with
  | refl => exact ⟨rfl, fun _ => rfl⟩
  | tail _ h ih => exact ih.trans (h.looksLike identifier')

/-- A named argument does not take part in the count of the positional ones. -/
theorem positional?_named (identifier : String) (before after : List Argument) (n value : String)
    (index : Nat) :
    (Call.mk identifier (before ++ named n value :: after)).positional? index =
      (Call.mk identifier (before ++ after)).positional? index := by
  simp [Call.positional?, Call.positionals, named]

end Argument

/-! ### Generators -/

/-- The generator answers calls that look alike by the same text and leaves the same words. -/
def LooksUp (generate : World → Call → Words → Generated) : Prop :=
  ∀ c c' : Call, c.LooksLike c' → ∀ world words,
    (generate world c words).value = (generate world c' words).value ∧
      (generate world c words).words = (generate world c' words).words

theorem looksUp_of_forall {generate : World → Call → Words → Generated}
    (h : ∀ world c c' words, generate world c words = generate world c' words) :
    LooksUp generate := by
  intro c c' _ world words
  rw [h world c c' words]
  exact ⟨rfl, rfl⟩

theorem Choice.values_congr {c c' : Call} (h : c.LooksLike c') : values c = values c' := by
  rw [values, values, h.positionals, h.named?]

theorem Variable.looksUp_lookup : LooksUp lookup := by
  intro c c' h world words
  rw [lookup, lookup, h.lookup?, h.lookup?]
  exact ⟨rfl, rfl⟩

section Builtins

variable [Dice]

theorem Bounds.looksUp_integer (bits : Nat) (least most : Int) :
    LooksUp (integer bits least most) := by
  intro c c' h world words
  constructor <;> simp only [integer, h.value_read]

theorem Bounds.looksUp_decimal : LooksUp decimal := by
  intro c c' h world words
  constructor <;> simp only [decimal, h.value_read]

theorem Letters.looksUp_capped (a : Alphabet) (usual cap : Nat) : LooksUp (capped a usual cap) := by
  intro c c' h world words
  constructor <;> simp only [capped, h.value_read]

theorem Choice.looksUp_ofValues : LooksUp ofValues := by
  intro c c' h world words
  rw [ofValues, ofValues, values_congr h]
  exact ⟨rfl, rfl⟩

theorem Expression.looksUp_of_mem_builtins {s : Settings} :
    ∀ x ∈ builtins s, LooksUp x.generate := by
  intro x hx
  rcases mem_builtins_iff.1 hx with hx | ⟨-, rfl⟩
  · simp only [generators, List.mem_cons, List.not_mem_nil, or_false] at hx
    rcases hx with rfl | rfl | rfl | rfl | rfl | rfl | rfl | rfl | rfl | rfl | rfl | rfl
    · exact looksUp_of_forall fun _ _ _ _ => rfl
    · exact looksUp_of_forall fun _ _ _ _ => rfl
    · exact looksUp_of_forall fun _ _ _ _ => rfl
    · exact Bounds.looksUp_integer _ _ _
    · exact Bounds.looksUp_integer _ _ _
    · exact Bounds.looksUp_decimal
    · exact looksUp_of_forall fun _ _ _ _ => rfl
    · exact looksUp_of_forall fun _ _ _ _ => rfl
    · exact Letters.looksUp_capped _ _ _
    · exact Letters.looksUp_capped _ _ _
    · exact looksUp_of_forall fun _ _ _ _ => rfl
    · exact Choice.looksUp_ofValues
  · exact Variable.looksUp_lookup

end Builtins

/-- **The built-in expressions see arguments only by looking them up.** A built-in expression gives
    calls that look alike the same text, in the same world and from the same random words, in
    whatever way values are drawn from these, and leaves the same words behind. So it does however
    often the arguments are restated: where those that are apart trade places, where a name is
    written in another case, and where an argument is left out whose name has been given before. A
    named argument does not move the positional ones. -/
theorem generate_of_looksLike [Dice] (s : Settings) (x : Expression)
    (hx : x ∈ Expression.builtins s) :
    (∀ c c' : Call, c.LooksLike c' → ∀ world words,
      (x.generate world c words).value = (x.generate world c' words).value ∧
        (x.generate world c words).words = (x.generate world c' words).words) ∧
    (∀ l l' : List Argument, Relation.ReflTransGen Argument.Restated l l' →
      ∀ identifier identifier' world words,
        (x.generate world ⟨identifier, l⟩ words).value =
          (x.generate world ⟨identifier', l'⟩ words).value) ∧
    ∀ identifier before after name value index,
      (Call.mk identifier (before ++ .named name value :: after)).positional? index =
        (Call.mk identifier (before ++ after)).positional? index := by
  have hlooks := Expression.looksUp_of_mem_builtins x hx
  refine ⟨hlooks, ?_, Argument.positional?_named⟩
  intro l l' h identifier identifier' world words
  exact (hlooks _ _ (Argument.looksLike_of_restatements h identifier identifier') world words).1

/-- A default in front of the name, and once more behind it. -/
def Variable.wordy : List Argument :=
  [.named "Default" "~", .positional "HOME", .named "default" "/"]

/-- The same with the name first, and the default written once. -/
def Variable.terse : List Argument := [.positional "HOME", .named "DEFAULT" "~"]

theorem Variable.terse_of_wordy : Relation.ReflTransGen Argument.Restated wordy terse := by
  have hswap : Argument.Restated wordy
      [.positional "HOME", .named "Default" "~", .named "default" "/"] :=
    .swapped [] [.named "default" "/"] trivial
  have hrepeat : Argument.Restated
      [.positional "HOME", .named "Default" "~", .named "default" "/"]
      [.positional "HOME", .named "Default" "~"] :=
    .repeated [.positional "HOME"] [] [] "~" "/" rfl
  have hrename : Argument.Restated [.positional "HOME", .named "Default" "~"] terse :=
    .renamed [.positional "HOME"] [] "~" rfl
  exact .tail (.tail (.single hswap) hrepeat) hrename

theorem generate_of_looksLike_home :
    Variable.variableValue ∈ Expression.builtins ⟨4096, true⟩ ∧
      (Call.mk "X" Variable.wordy).LooksLike ⟨"x", Variable.terse⟩ ∧
      (∀ world words,
        (Variable.variableValue.generate world ⟨"X", Variable.wordy⟩ words).value =
          (Variable.variableValue.generate world ⟨"x", Variable.terse⟩ words).value) ∧
      ∀ now words,
        (Variable.variableValue.generate ⟨now, ⟨[]⟩⟩ ⟨"X", Variable.wordy⟩ words).value = "~" := by
  have hx : Variable.variableValue ∈ Expression.builtins ⟨4096, true⟩ :=
    Expression.mem_builtins_iff.2 (.inr ⟨rfl, rfl⟩)
  obtain ⟨hlooks, hrestated, -⟩ := generate_of_looksLike ⟨4096, true⟩ _ hx
  have hlike : (Call.mk "X" Variable.wordy).LooksLike ⟨"x", Variable.terse⟩ :=
    Argument.looksLike_of_restatements Variable.terse_of_wordy "X" "x"
  refine ⟨hx, hlike, fun world words => (hlooks _ _ hlike world words).1, ?_⟩
  intro now words
  rw [hrestated _ _ Variable.terse_of_wordy "X" "x"]
  rfl

end Stencil
