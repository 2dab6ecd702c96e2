import Stencil.Proofs.Budget
import Stencil.Proofs.Builtins

/-!
# What a template sees of the environment

Only one built-in expression looks at the environment, and only at the variable that its call names.
So a render is the same in two worlds with the same clock whose environments give the same text to
every name in the template (`Engine.namedVariables`). Where the settings keep that expression out, a
template names no variable, and the environment does not matter.

The whole render is compared, its pieces and the random words that it leaves, so that the output,
the report and the log are too.
-/

namespace Stencil

open Text

/-! ### Expressions and the environment -/

/-- Of a world, the expression takes at most the clock. -/
def Expression.IgnoresEnvironment (x : Expression) : Prop :=
  ∀ world world' : World, world.now = world'.now → ∀ call words,
    x.generate world call words = x.generate world' call words

theorem Expression.ignoresEnvironment_plain {identifier description : String}
    {generate : World → Call → Words → Generated}
    (h : ∀ world world' : World, world.now = world'.now → ∀ call words,
      generate world call words = generate world' call words) :
    (plain identifier description generate).IgnoresEnvironment := h

theorem Time.shown_congr [Dice] (text : Int → String) (world world' : World)
    (h : world.now = world'.now) (call : Call) (words : Words) :
    shown text world call words = shown text world' call words := by
  unfold shown
  rw [h]

theorem Expression.ignoresEnvironment_of_mem_generators [Dice] {s : Settings} :
    ∀ x ∈ generators s, x.IgnoresEnvironment := by
  intro x hx
  simp only [generators, List.mem_cons, List.not_mem_nil, or_false] at hx
  rcases hx with rfl | rfl | rfl | rfl | rfl | rfl | rfl | rfl | rfl | rfl | rfl | rfl
  -- three of them show a random time
  iterate 3 exact ignoresEnvironment_plain (Time.shown_congr _)
  all_goals exact ignoresEnvironment_plain fun _ _ _ _ _ => rfl

/-- The variable that a call names, blanks around the name aside. -/
def Variable.named? (call : Call) : Option String :=
  (call.lookup? "name" 0).map fun given => String.ofList (trim given.toList)

theorem Variable.lookup_congr {now : Int} {environment environment' : Environment} {call : Call}
    (h : ∀ name, named? call = some name → environment.text? name = environment'.text? name)
    (words : Words) :
    lookup ⟨now, environment⟩ call words = lookup ⟨now, environment'⟩ call words := by
  rw [lookup, lookup]
  cases hgiven : call.lookup? "name" 0 with
  | none => rfl
  | some given =>
    have htext := h (String.ofList (trim given.toList)) (by rw [named?, hgiven]; rfl)
    simp only [htext]

namespace Engine

variable {e : Engine} {now : Int} {environment environment' : Environment}

/-- The variable that a segment names: the segment is a placeholder that reads as a call of the
    expression for variables. -/
def namedVariable? (e : Engine) : Segment → Option String
  | .placeholder _ body =>
    match Call.ofBody e.delimiters body with
    | .ok call =>
      match e.registry.resolve call.identifier with
      | some x =>
        if x.identifier = Variable.variableValue.identifier then Variable.named? call else none
      | none => none
    | .error _ => none
  | _ => none

/-- The variables that a template names. -/
def namedVariables (e : Engine) (template : String) : List String :=
  (segments e.delimiters e.limits.bodyLength template.toList).filterMap e.namedVariable?

/-- Every expression that is registered ignores the environment, but for the one for variables. -/
def Discreet (e : Engine) : Prop :=
  ∀ x ∈ e.registry.expressions, x.IgnoresEnvironment ∨ x = Variable.variableValue

theorem namedVariable?_eq {raw body : List Char} {call : Call} {x : Expression}
    (hread : Call.ofBody e.delimiters body = .ok call)
    (hresolve : e.registry.resolve call.identifier = some x) :
    e.namedVariable? (.placeholder raw body) =
      if x.identifier = Variable.variableValue.identifier then Variable.named? call else none := by
  rw [namedVariable?, hread]
  simp only [hresolve]

theorem expand_congr (he : e.Discreet) {raw body : List Char}
    (h : ∀ name, e.namedVariable? (.placeholder raw body) = some name →
      environment.text? name = environment'.text? name) (words : Words) :
    e.expand ⟨now, environment⟩ words body = e.expand ⟨now, environment'⟩ words body := by
  rw [expand, expand]
  cases hread : Call.ofBody e.delimiters body with
  | error error => rfl
  | ok call =>
    cases hresolve : e.registry.resolve call.identifier with
    | none => simp only [hresolve]
    | some x =>
      have hgenerate : x.generate ⟨now, environment⟩ call words =
          x.generate ⟨now, environment'⟩ call words := by
        rcases he x (Registry.mem_of_resolve hresolve) with hx | rfl
        · exact hx ⟨now, environment⟩ ⟨now, environment'⟩ rfl call words
        · apply Variable.lookup_congr
          intro name hname
          apply h
          rw [namedVariable?_eq hread hresolve, if_pos rfl, hname]
      simp only [hresolve, hgenerate]

theorem pieces_congr {world world' : World} {cuts : List Cut}
    (h : ∀ cut ∈ cuts, ∀ raw body, cut.segment = .placeholder raw body →
      ∀ words, e.expand world words body = e.expand world' words body)
    (count : Nat) (words : Words) :
    e.pieces world count words cuts = e.pieces world' count words cuts := by
  induction cuts generalizing count words with
  | nil => rfl
  | cons cut cuts ih =>
    obtain ⟨hcut, hcuts⟩ := List.forall_mem_cons.1 h
    by_cases hplace : cut.segment.isPlaceholder = false
    · rw [pieces_copied hplace, pieces_copied hplace, ih hcuts]
    · rw [Bool.not_eq_false] at hplace
      obtain ⟨raw, body, hsegment⟩ := Segment.exists_of_isPlaceholder hplace
      have hsettle : e.settle world count words body = e.settle world' count words body := by
        rw [settle, settle, hcut raw body hsegment words]
      rw [pieces_placeholder hsegment, pieces_placeholder hsegment, hsettle]
      simp only [ih hcuts]

theorem render_congr (he : e.Discreet) {template : String}
    (h : ∀ name ∈ e.namedVariables template, environment.text? name = environment'.text? name)
    (words : Words) :
    e.render ⟨now, environment⟩ words template = e.render ⟨now, environment'⟩ words template := by
  apply pieces_congr
  intro cut hcut raw body hsegment words
  apply expand_congr he
  intro name hname
  apply h
  rw [← hsegment] at hname
  exact List.mem_filterMap.2 ⟨cut.segment, List.mem_map_of_mem hcut, hname⟩

/-! ### The engine of a configuration -/

variable {s : Settings}

theorem discreet_of_builtins [Dice] (h : e.registry.expressions = Expression.builtins s) :
    e.Discreet := by
  intro x hx
  rw [h] at hx
  rcases Expression.mem_builtins_iff.1 hx with hx | ⟨-, rfl⟩
  · exact .inl (Expression.ignoresEnvironment_of_mem_generators x hx)
  · exact .inr rfl

/-- Without the expression for variables, no segment names one. -/
theorem namedVariables_eq_nil [Dice] (h : e.registry.expressions = Expression.builtins s)
    (hs : s.environment = false) (template : String) : e.namedVariables template = [] := by
  have hno : ∀ x ∈ e.registry.expressions,
      x.identifier ≠ Variable.variableValue.identifier := by
    intro x hx
    have hmem := List.mem_map_of_mem (f := Expression.identifier) hx
    rw [h, Expression.map_identifier_builtins, hs] at hmem
    rintro hidentifier
    rw [hidentifier] at hmem
    revert hmem
    decide
  apply List.filterMap_eq_nil_iff.2
  intro segment _
  cases segment with
  | placeholder raw body =>
    rw [namedVariable?]
    split
    · split
      · next x hresolve => exact if_neg (hno x (Registry.mem_of_resolve hresolve))
      · rfl
    · rfl
  | _ => rfl

end Engine

/-- **A template sees only the variables that it names.** Under every configuration there is an
    engine, and however random values are drawn, its renders of a template are the same in two
    environments that give the same text, or none, to every name in the template. If the settings do
    not allow templates to read the environment, its renders are the same in all environments. -/
theorem render_sees_named [Dice] (c : Config) :
    ∃ e, Engine.ofConfig c = .ok e ∧
      (∀ template now words environment environment',
        (∀ name ∈ e.namedVariables template,
          environment.text? name = environment'.text? name) →
        e.render ⟨now, environment⟩ words template =
          e.render ⟨now, environment'⟩ words template) ∧
      (c.settings.environment = false → ∀ template now words environment environment',
        e.render ⟨now, environment⟩ words template =
          e.render ⟨now, environment'⟩ words template) := by
  obtain ⟨r, he, -, hexpressions⟩ := Engine.exists_ofConfig c
  have hdiscreet : Engine.Discreet ⟨r, c.delimiters, c.limits⟩ :=
    Engine.discreet_of_builtins hexpressions
  refine ⟨⟨r, c.delimiters, c.limits⟩, he, ?_, ?_⟩
  · intro template now words environment environment' h
    exact Engine.render_congr hdiscreet h words
  · intro hs template now words environment environment'
    apply Engine.render_congr hdiscreet
    rw [Engine.namedVariables_eq_nil hexpressions hs]
    exact List.forall_mem_nil _

/-- The usual configuration, but that templates may read the environment. -/
def Config.candid : Config := { Config.standard with settings := ⟨4096, true⟩ }

theorem Engine.ofConfig_candid [Dice] :
    Engine.ofConfig .candid = .ok ⟨⟨(Expression.builtins ⟨4096, true⟩).map fun x =>
      (fold x.identifier, x)⟩, .standard, .standard⟩ :=
  Engine.ofConfig_eq .candid

/-- A variable with blanks around its name, and the name of another one that is no name here. -/
def Engine.homely : String :=
  "$\x7bEnvironment_Variable(\" HOME \", TOKEN)\x7d$\x7bRANDOM_ENUM(TOKEN)\x7d"

theorem render_sees_named_home :
    ∃ e, Engine.ofConfig .candid = .ok e ∧
      e.namedVariables Engine.homely = ["HOME"] ∧
      ∀ home token token' now words,
        e.render ⟨now, ⟨[("HOME", home), ("TOKEN", token)]⟩⟩ words Engine.homely =
          e.render ⟨now, ⟨[("TOKEN", token'), ("HOME", home)]⟩⟩ words Engine.homely := by
  obtain ⟨e, he, hsame, -⟩ := render_sees_named .candid
  have hnames : e.namedVariables Engine.homely = ["HOME"] := by
    obtain rfl := Except.ok.inj (Engine.ofConfig_candid.symm.trans he)
    decide +kernel
  refine ⟨e, he, hnames, ?_⟩
  intro home token token' now words
  apply hsame
  rw [hnames]
  intro name hname
  obtain rfl := List.mem_singleton.1 hname
  rfl

end Stencil
