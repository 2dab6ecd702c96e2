import Stencil.Config.Load
import Stencil.Proofs.Numerals
import Stencil.Proofs.Trimming

/-!
# Loading, stage by stage

What comes of loading a configuration from a text, as one rule for each way to end (`Config.Loads`):
the text is blank, it cannot be read, a variable is no number, the configuration has errors, or it
is loaded. The rules know nothing of the order in which overrides are applied. They say of the final
configuration which of its fields are those that were read, and which are the numbers that the
variables spell (`Config.OverriddenTo`); and this configuration, and no other one, is checked.

Loading follows the rules (`loadText_iff`), in whatever format the texts are.
-/

namespace Stencil

open Text

/-! ### Variables that spell numbers -/

namespace Override

/-- A text spells a number of 64 bits: blanks around it aside, it is a numeral of it, with or
    without a plus in front. -/
def Spells (text : String) (n : Nat) : Prop :=
  ∃ digits, (trim text.toList = digits ∨ trim text.toList = '+' :: digits) ∧
    Number.Writes digits n ∧ n ≤ Number.maxWord

theorem value?_eq_some_iff {text : String} {n : Nat} :
    value? text = some n ↔ Spells text n :=
  Number.natural?_eq_some_iff

theorem value?_eq_none_iff {text : String} : value? text = none ↔ ∀ n, ¬ Spells text n := by
  rw [Option.eq_none_iff_forall_ne_some]
  exact forall_congr' fun n => not_congr value?_eq_some_iff

/-- The text that a variable is read with, if there are overrides and it is set to one. -/
def given (overrides : Option (String → Option String)) (o : Override) : Option String :=
  overrides.bind fun value? => value? o.name

/-- A field has the number that the given text spells, and its old value without one. -/
def Yields (given : Option String) (old new : Nat) : Prop :=
  match given with
  | some text => Spells text new
  | none => new = old

/-- The first variable, in the order of the overrides, with a text that spells no number. -/
def FirstBad (overrides : Option (String → Option String)) (o : Override) (text : String) :
    Prop :=
  ∃ before after, all = before ++ o :: after ∧
    (∀ p ∈ before, ∀ t, p.given overrides = some t → ∃ n, Spells t n) ∧
    o.given overrides = some text ∧ ∀ n, ¬ Spells text n

end Override

namespace Config

/-- Three fields have the numbers that their variables spell, if they are given, and all else is as
    it was. -/
structure OverriddenTo (overrides : Option (String → Option String)) (c c' : Config) : Prop where
  expansions : Override.Yields (Override.expansions.given overrides) c.limits.expansions
    c'.limits.expansions
  bodyLength : Override.Yields (Override.bodyLength.given overrides) c.limits.bodyLength
    c'.limits.bodyLength
  stringLength : Override.Yields (Override.stringLength.given overrides) c.settings.stringLength
    c'.settings.stringLength
  environment : c'.settings.environment = c.settings.environment
  delimiters : c'.delimiters = c.delimiters

/-- The ways to end of loading a text. -/
inductive Loads (format : Format) (overrides : Option (String → Option String))
    (path text : String) : Except ConfigError Loaded → Prop
  | blank (hblank : Blanks text.toList) :
      Loads format overrides path text (.error (.notReadable path .blank))
  | notReadable {fault : ReadFault} (hblank : ¬ Blanks text.toList)
      (hread : format text = .error fault) :
      Loads format overrides path text (.error (.notReadable path fault))
  | badValue {c : Config} {o : Override} {value : String} (hblank : ¬ Blanks text.toList)
      (hread : format text = .ok c) (hbad : o.FirstBad overrides value) :
      Loads format overrides path text
        (.error (.badValue o.name value "a non-negative integer"))
  | notValid {c c' : Config} (hblank : ¬ Blanks text.toList) (hread : format text = .ok c)
      (hoverridden : c.OverriddenTo overrides c')
      (herror : ∃ i ∈ c'.issues, i.severity = .error) :
      Loads format overrides path text
        (.error (.notValid path (c'.issues.filter fun i => i.severity = .error)))
  | loaded {c c' : Config} (hblank : ¬ Blanks text.toList) (hread : format text = .ok c)
      (hoverridden : c.OverriddenTo overrides c')
      (hvalid : ∀ i ∈ c'.issues, i.severity ≠ .error) :
      Loads format overrides path text
        (.ok ⟨c', c'.issues.filter fun i => i.severity = .warning⟩)

end Config

/-! ### Applying overrides -/

namespace Override

variable {overrides : Option (String → Option String)}

/-- The error of a variable that is read with a text that is no number. -/
def fault? (overrides : Option (String → Option String)) (o : Override) : Option ConfigError :=
  match o.given overrides with
  | some text => if (value? text).isSome then none else some (o.badValue text)
  | none => none

/-- A configuration with one override, if its variable is read with a number. -/
def applied (overrides : Option (String → Option String)) (c : Config) (o : Override) : Config :=
  match (o.given overrides).bind value? with
  | some n => o.set n c
  | none => c

theorem fault?_eq_none_iff {o : Override} :
    o.fault? overrides = none ↔
      ∀ text, o.given overrides = some text → ∃ n, Spells text n := by
  rw [fault?]
  cases o.given overrides with
  | none => simp
  | some text => simp [Option.isSome_iff_exists, value?_eq_some_iff]

theorem fault?_eq_some_iff {o : Override} {error : ConfigError} :
    o.fault? overrides = some error ↔
      ∃ text, o.given overrides = some text ∧ (∀ n, ¬ Spells text n) ∧
        o.badValue text = error := by
  rw [fault?]
  cases o.given overrides with
  | none => simp
  | some text =>
    simp only [← value?_eq_none_iff, Option.some.injEq, exists_eq_left']
    cases hvalue : value? text with
    | none => simp
    | some n => simp

theorem findSome?_fault?_eq_some_iff {error : ConfigError} :
    all.findSome? (fault? overrides) = some error ↔
      ∃ (o : Override) (text : String),
        o.FirstBad overrides text ∧ o.badValue text = error := by
  rw [List.findSome?_eq_some_iff]
  constructor
  · rintro ⟨before, o, after, hall, hfault, hbefore⟩
    obtain ⟨text, hgiven, hbad, rfl⟩ := fault?_eq_some_iff.1 hfault
    refine ⟨o, text, ⟨before, after, hall, ?_, hgiven, hbad⟩, rfl⟩
    exact fun p hp => fault?_eq_none_iff.1 (hbefore p hp)
  · rintro ⟨o, text, ⟨before, after, hall, hbefore, hgiven, hbad⟩, rfl⟩
    refine ⟨before, o, after, hall, fault?_eq_some_iff.2 ⟨text, hgiven, hbad, rfl⟩, ?_⟩
    exact fun p hp => fault?_eq_none_iff.2 (hbefore p hp)

/-- What a field becomes, if its variable is read with a number or not at all. -/
def number (given : Option String) (old : Nat) : Nat := (given.bind value?).getD old

theorem yields_iff {given : Option String} {old new : Nat}
    (h : ∀ text, given = some text → ∃ n, Spells text n) :
    Yields given old new ↔ new = number given old := by
  cases given with
  | none => rfl
  | some text =>
    obtain ⟨n, hn⟩ := h text rfl
    have hvalue := value?_eq_some_iff.2 hn
    rw [number, Option.bind_some, hvalue, Option.getD_some]
    constructor
    · intro hnew
      exact Option.some.inj ((value?_eq_some_iff.2 hnew).symm.trans hvalue)
    · rintro rfl
      exact hn

theorem Yields.exists_spells {given : Option String} {old new : Nat} (h : Yields given old new) :
    ∀ text, given = some text → ∃ n, Spells text n := by
  rintro text rfl
  exact ⟨new, h⟩

theorem foldl_applied_all (c : Config) :
    all.foldl (applied overrides) c =
      { c with
        limits :=
          ⟨number (expansions.given overrides) c.limits.expansions,
            number (bodyLength.given overrides) c.limits.bodyLength⟩
        settings :=
          ⟨number (stringLength.given overrides) c.settings.stringLength,
            c.settings.environment⟩ } := by
  simp only [all, List.foldl_cons, List.foldl_nil, applied, number]
  cases (expansions.given overrides).bind value? <;>
    cases (bodyLength.given overrides).bind value? <;>
      cases (stringLength.given overrides).bind value? <;> rfl

end Override

namespace Config

variable {overrides : Option (String → Option String)} {value? : String → Option String}
  {c c' : Config} {path : String}

theorem error_overriddenBy (value? : String → Option String) (c : Config)
    (os : List Override) :
    (c.overriddenBy value? os).error = os.findSome? (Override.fault? (some value?)) := by
  induction os generalizing c with
  | nil => rfl
  | cons o os ih =>
    rw [overriddenBy, List.findSome?_cons, Override.fault?, Override.given, Option.bind_some]
    cases value? o.name with
    | none => exact ih c
    | some text =>
      cases hvalue : Override.value? text with
      | none => simp [hvalue]
      | some n => simp [hvalue, ih]

theorem config_overriddenBy (os : List Override)
    (h : os.findSome? (Override.fault? (some value?)) = none) :
    (c.overriddenBy value? os).config = os.foldl (Override.applied (some value?)) c := by
  induction os generalizing c with
  | nil => rfl
  | cons o os ih =>
    rw [List.findSome?_cons, Override.fault?, Override.given, Option.bind_some] at h
    rw [overriddenBy, List.foldl_cons, Override.applied, Override.given, Option.bind_some]
    cases hgiven : value? o.name with
    | none =>
      rw [hgiven] at h
      exact ih h
    | some text =>
      rw [hgiven] at h
      cases hvalue : Override.value? text with
      | none => simp [hvalue] at h
      | some n =>
        simp only [hvalue, Option.isSome_some, if_true] at h
        simp only [Option.bind_some, hvalue]
        exact ih h

theorem result_completed (overrides : Option (String → Option String)) (path : String)
    (c : Config) :
    (completed overrides path c).result =
      match Override.all.findSome? (Override.fault? overrides) with
      | some error => .error error
      | none => checked path (Override.all.foldl (Override.applied overrides) c) := by
  cases overrides with
  | none =>
    have hfault : Override.all.findSome? (Override.fault? none) = none := rfl
    have hconfig : Override.all.foldl (Override.applied none) c = c := rfl
    rw [completed, hfault, hconfig]
  | some value? =>
    rw [completed, overridden]
    simp only [error_overriddenBy]
    cases hfault : Override.all.findSome? (Override.fault? (some value?)) with
    | some error => rfl
    | none => simp only [config_overriddenBy _ hfault]

/-- The overrides succeed if there is a configuration that they lead to, and it is then the one that
    comes of applying them. -/
theorem overriddenTo_iff :
    c.OverriddenTo overrides c' ↔
      Override.all.findSome? (Override.fault? overrides) = none ∧
        c' = Override.all.foldl (Override.applied overrides) c := by
  rw [Override.foldl_applied_all]
  simp only [List.findSome?_eq_none_iff, Override.fault?_eq_none_iff, Override.all,
    List.forall_mem_cons, List.not_mem_nil, false_imp_iff, implies_true, and_true]
  constructor
  · intro h
    have hexpansions := h.expansions.exists_spells
    have hbodyLength := h.bodyLength.exists_spells
    have hstringLength := h.stringLength.exists_spells
    refine ⟨⟨hexpansions, hbodyLength, hstringLength⟩, ?_⟩
    rw [← (Override.yields_iff hexpansions).1 h.expansions,
      ← (Override.yields_iff hbodyLength).1 h.bodyLength,
      ← (Override.yields_iff hstringLength).1 h.stringLength, ← h.environment, ← h.delimiters]
  · rintro ⟨⟨hexpansions, hbodyLength, hstringLength⟩, rfl⟩
    exact ⟨(Override.yields_iff hexpansions).2 rfl, (Override.yields_iff hbodyLength).2 rfl,
      (Override.yields_iff hstringLength).2 rfl, rfl, rfl⟩

/-! ### Checking -/

theorem errors_eq (c : Config) : c.errors = c.issues.filter fun i => i.severity = .error := by
  refine List.filter_congr fun i _ => ?_
  rw [Issue.isError]
  cases i.severity <;> rfl

theorem warnings_eq (c : Config) :
    c.warnings = c.issues.filter fun i => i.severity = .warning := by
  refine List.filter_congr fun i _ => ?_
  rw [Issue.isError]
  cases i.severity <;> rfl

theorem isValid_iff_forall : c.isValid = true ↔ ∀ i ∈ c.issues, i.severity ≠ .error := by
  rw [isValid, errors_eq, List.isEmpty_iff, List.filter_eq_nil_iff]
  simp only [decide_eq_true_eq, ne_eq]

theorem checked_of_error (path : String) (h : ∃ i ∈ c.issues, i.severity = .error) :
    checked path c = .error (.notValid path (c.issues.filter fun i => i.severity = .error)) := by
  have hvalid : ¬ c.isValid = true := by
    obtain ⟨i, hi, herror⟩ := h
    exact fun hall => isValid_iff_forall.1 hall i hi herror
  rw [checked, if_neg hvalid, errors_eq]

theorem checked_of_forall (path : String) (h : ∀ i ∈ c.issues, i.severity ≠ .error) :
    checked path c = .ok ⟨c, c.issues.filter fun i => i.severity = .warning⟩ := by
  rw [checked, if_pos (isValid_iff_forall.2 h), warnings_eq]

/-! ### Loading -/

variable {format : Format} {text : String} {result : Except ConfigError Loaded}

theorem result_loadText_of_blanks (h : Blanks text.toList) :
    (loadText format overrides path text).result = .error (.notReadable path .blank) := by
  rw [loadText, ofText, if_pos (List.isEmpty_iff.2 (trim_eq_nil_iff.2 h))]

theorem result_loadText_of_not_blanks (h : ¬ Blanks text.toList) :
    (loadText format overrides path text).result =
      match format text with
      | .ok c => (completed overrides path c).result
      | .error fault => .error (.notReadable path fault) := by
  have hempty : ¬ (trim text.toList).isEmpty = true := by
    rwa [List.isEmpty_iff, trim_eq_nil_iff]
  rw [loadText, ofText, if_neg hempty]
  cases format text <;> rfl

theorem loads_loadText (format : Format) (overrides : Option (String → Option String))
    (path text : String) :
    Loads format overrides path text (loadText format overrides path text).result := by
  by_cases hblank : Blanks text.toList
  · rw [result_loadText_of_blanks hblank]
    exact .blank hblank
  rw [result_loadText_of_not_blanks hblank]
  cases hread : format text with
  | error fault => exact .notReadable hblank hread
  | ok c =>
    simp only [result_completed]
    cases hfault : Override.all.findSome? (Override.fault? overrides) with
    | some error =>
      obtain ⟨o, value, hbad, rfl⟩ := Override.findSome?_fault?_eq_some_iff.1 hfault
      exact .badValue hblank hread hbad
    | none =>
      generalize hc' : Override.all.foldl (Override.applied overrides) c = c'
      have hoverridden : c.OverriddenTo overrides c' := overriddenTo_iff.2 ⟨hfault, hc'.symm⟩
      by_cases herror : ∃ i ∈ c'.issues, i.severity = .error
      · simp only [checked_of_error path herror]
        exact .notValid hblank hread hoverridden herror
      · have hvalid : ∀ i ∈ c'.issues, i.severity ≠ .error :=
          fun i hi h => herror ⟨i, hi, h⟩
        simp only [checked_of_forall path hvalid]
        exact .loaded hblank hread hoverridden hvalid

/-- No rule leads to anything else. -/
theorem Loads.result_eq (h : Loads format overrides path text result) :
    (loadText format overrides path text).result = result := by
  cases h with
  | blank hblank => exact result_loadText_of_blanks hblank
  | notReadable hblank hread => rw [result_loadText_of_not_blanks hblank, hread]
  | badValue hblank hread hbad =>
    have hfault := Override.findSome?_fault?_eq_some_iff.2 ⟨_, _, hbad, rfl⟩
    rw [result_loadText_of_not_blanks hblank, hread]
    simp only [result_completed, hfault]
    rfl
  | notValid hblank hread hoverridden herror =>
    obtain ⟨hfault, rfl⟩ := overriddenTo_iff.1 hoverridden
    rw [result_loadText_of_not_blanks hblank, hread]
    simp only [result_completed, hfault]
    exact checked_of_error path herror
  | loaded hblank hread hoverridden hvalid =>
    obtain ⟨hfault, rfl⟩ := overriddenTo_iff.1 hoverridden
    rw [result_loadText_of_not_blanks hblank, hread]
    simp only [result_completed, hfault]
    exact checked_of_forall path hvalid

/-- **Loading ends as the rules say, and in no other way.** The result of loading a text is the one
    that the rules lead to. So a configuration comes out if and only if the text is not blank, it
    can be read, every variable that is read spells a number, and the configuration with these
    numbers has no error; and the error is otherwise that of the first stage that fails. -/
theorem loadText_iff (format : Format) (overrides : Option (String → Option String))
    (path text : String) (result : Except ConfigError Loaded) :
    (loadText format overrides path text).result = result ↔
      Loads format overrides path text result := by
  constructor
  · rintro rfl
    exact loads_loadText format overrides path text
  · exact Loads.result_eq

end Config

end Stencil
