import Stencil.Proofs.Grammar
import Stencil.Proofs.Occurrence

/-!
# What a check asks

The check of a configuration is a list of issues; here it is said as conditions. A configuration is
valid exactly if its punctuation is accepted (`Delimiters.Accepted`) and bodies may have a length at
all (`Config.isValid_iff`). Nothing is found about its punctuation, not even a warning, exactly if
besides no closing bracket and no separator lies in the closing delimiter (`Delimiters.Quiet`,
`Config.quiet_iff`).

The escape has errors of its own (`Config.exists_escape_error_iff`): it is refused if it would not
be seen in front of the first opening delimiter (`Delimiters.SeesEscape`).
-/

namespace Stencil

open Text

/-! ### Issues -/

namespace Issue

/-- The issue is about the punctuation of placeholders. -/
def isOfSyntax (i : Issue) : Bool := "syntax.".toList.isPrefixOf i.path.toList

variable {b : Bool} {j : Issue} {p : Issue → Prop} {path message : String}

theorem forall_mem_onlyIf : (∀ i ∈ onlyIf b j, p i) ↔ (b = true → p j) := by
  cases b <;> simp [onlyIf]

theorem onlyIf_eq_nil_iff : onlyIf b j = [] ↔ b = false := by
  cases b <;> simp [onlyIf]

@[simp] theorem isError_error : (error path message).isError = true := rfl

@[simp] theorem isError_warning : (warning path message).isError = false := rfl

theorem path_error : (error path message).path = path := rfl

theorem path_warning : (warning path message).path = path := rfl

end Issue

/-! ### Punctuation -/

namespace Delimiters

variable {d : Delimiters}

/-- There is an escape, and no opening delimiter begins in front of the one that it escapes. -/
structure SeesEscape (d : Delimiters) : Prop where
  escape : d.escapeText ≠ []
  first : FirstAt d.opening.toList (d.escapeText ++ d.opening.toList) d.escapeText []

/-- Punctuation that no error stands against. -/
structure Accepted (d : Delimiters) : Prop extends d.Legible where
  opening : d.opening.toList ≠ []
  closing : d.closing.toList ≠ []
  frame : d.opening ≠ d.closing
  brackets : d.argsOpen ≠ d.argsClose
  separator_ne : d.separator ≠ d.argsOpen
  escape : d.escape ≠ none → d.SeesEscape

/-- Punctuation that nothing is found about: no bracket or separator would cut a call short. -/
structure Quiet (d : Delimiters) : Prop extends d.Accepted where
  argsClose_notMem : d.argsClose ∉ d.closing.toList
  separator_notMem : d.separator ∉ d.closing.toList

theorem shadowed_eq_false_iff {escape opening : List Char} (h : opening ≠ []) :
    shadowed escape opening = false ↔ FirstAt opening (escape ++ opening) escape [] := by
  simp [shadowed, h, splitFirst_eq_some_iff]

/-- Every issue of the escape is an error at its field. -/
theorem of_mem_escapeIssues :
    ∀ i ∈ d.escapeIssues, i.isError = true ∧ i.path = "syntax.escape" := by
  unfold escapeIssues
  split
  · exact List.forall_mem_nil _
  · split
    · exact List.forall_mem_singleton.2 ⟨rfl, rfl⟩
    · split
      · exact List.forall_mem_singleton.2 ⟨rfl, rfl⟩
      · exact Issue.forall_mem_onlyIf.2 fun _ => ⟨rfl, rfl⟩

/-- An escape that is the opening delimiter itself is not seen either, so that the check could do
    without this case. -/
theorem escapeIssues_eq_nil_iff (hopening : d.opening.toList ≠ []) :
    d.escapeIssues = [] ↔ (d.escape ≠ none → d.SeesEscape) := by
  obtain hnone | ⟨escape, hsome⟩ := Option.eq_none_or_eq_some d.escape
  · simp [escapeIssues, hnone]
  · have htext : d.escapeText = escape.toList := by rw [escapeText, hsome]; rfl
    have hsees : (d.escape ≠ none → d.SeesEscape) ↔ d.SeesEscape := by simp [hsome]
    rw [hsees, escapeIssues, hsome]
    simp only
    split
    · next hempty =>
      have hno : ¬ d.SeesEscape := fun h => h.escape (by rw [htext]; simpa using hempty)
      simp [hno]
    · next hne =>
      split
      · next hsame =>
        have hno : ¬ d.SeesEscape := by
          intro h
          -- the delimiter in the escape comes first
          have hle := h.first.earliest [] d.opening.toList (by rw [htext, beq_iff_eq.1 hsame]; rfl)
          exact h.escape (List.length_eq_zero_iff.1 (Nat.le_zero.1 hle))
        simp [hno]
      · have hescape : escape.toList ≠ [] := by simpa using hne
        rw [Issue.onlyIf_eq_nil_iff, shadowed_eq_false_iff hopening, ← htext]
        exact ⟨fun h => ⟨htext ▸ hescape, h⟩, SeesEscape.first⟩

theorem no_error_frameIssues_iff :
    (∀ i ∈ d.frameIssues, i.isError = false) ↔
      d.opening.toList ≠ [] ∧ d.closing.toList ≠ [] ∧ d.opening ≠ d.closing := by
  simp only [frameIssues, List.forall_mem_append, Issue.forall_mem_onlyIf, Issue.isError_error]
  by_cases h : d.opening = "" <;> simp [h]

theorem no_error_argumentIssues_iff :
    (∀ i ∈ d.argumentIssues, i.isError = false) ↔
      d.Legible ∧ d.argsOpen ≠ d.argsClose ∧ d.separator ≠ d.argsOpen := by
  simp only [argumentIssues, collisionIssue, List.forall_mem_append, Issue.forall_mem_onlyIf,
    Issue.isError_error, Issue.isError_warning]
  constructor
  · rintro ⟨⟨⟨⟨⟨hopen, hclose⟩, hseparator⟩, hbrackets⟩, hdistinct⟩, -⟩
    simp at hopen hclose hseparator hbrackets hdistinct
    exact ⟨⟨hopen, hclose, hseparator, hdistinct.2⟩, hbrackets, hdistinct.1⟩
  · rintro ⟨h, hbrackets, hseparator⟩
    simp [h.argsOpen, h.argsClose, h.separator, h.distinct, hbrackets, hseparator]

theorem no_error_escapeIssues_iff :
    (∀ i ∈ d.escapeIssues, i.isError = false) ↔ d.escapeIssues = [] := by
  rw [List.eq_nil_iff_forall_not_mem]
  refine forall₂_congr fun i hi => ?_
  simp [(of_mem_escapeIssues i hi).1]

/-- Accepted is what no error stands against. -/
theorem accepted_iff : d.Accepted ↔ ∀ i ∈ d.issues, i.isError = false := by
  rw [issues, List.forall_mem_append, List.forall_mem_append, no_error_frameIssues_iff,
    no_error_argumentIssues_iff, no_error_escapeIssues_iff]
  constructor
  · intro h
    exact ⟨⟨⟨h.opening, h.closing, h.frame⟩, h.toLegible, h.brackets, h.separator_ne⟩,
      (escapeIssues_eq_nil_iff h.opening).2 h.escape⟩
  · rintro ⟨⟨⟨hopening, hclosing, hframe⟩, hlegible, hbrackets, hseparator⟩, hescape⟩
    exact ⟨hlegible, hopening, hclosing, hframe, hbrackets, hseparator,
      (escapeIssues_eq_nil_iff hopening).1 hescape⟩

/-- There is only one warning about punctuation. -/
theorem all_errors_iff :
    (∀ i ∈ d.issues, i.isError = true) ↔
      d.argsClose ∉ d.closing.toList ∧ d.separator ∉ d.closing.toList := by
  have hescape : ∀ i ∈ d.escapeIssues, i.isError = true :=
    fun i hi => (of_mem_escapeIssues i hi).1
  simp only [issues, frameIssues, argumentIssues, collisionIssue, List.forall_mem_append,
    Issue.forall_mem_onlyIf, Issue.isError_error, Issue.isError_warning, and_iff_left hescape]
  simp

theorem issues_eq_nil_iff : d.issues = [] ↔ d.Quiet := by
  constructor
  · intro h
    obtain ⟨hclose, hseparator⟩ := all_errors_iff.1 (by rw [h]; exact List.forall_mem_nil _)
    exact ⟨accepted_iff.2 (by rw [h]; exact List.forall_mem_nil _), hclose, hseparator⟩
  · intro h
    refine List.eq_nil_iff_forall_not_mem.2 fun i hi => ?_
    have hno := accepted_iff.1 h.toAccepted i hi
    rw [all_errors_iff.2 ⟨h.argsClose_notMem, h.separator_notMem⟩ i hi] at hno
    cases hno

/-- The fields that issues other than those of the escape are about. -/
def fieldPaths : List String :=
  ["syntax.start", "syntax.end", "syntax.args_open", "syntax.args_close", "syntax.separator"]

theorem path_of_mem_issues :
    ∀ i ∈ d.issues, i ∈ d.escapeIssues ∨ i.path ∈ fieldPaths := by
  have hfields : ∀ i ∈ d.frameIssues ++ d.argumentIssues, i.path ∈ fieldPaths := by
    simp only [frameIssues, argumentIssues, collisionIssue, List.forall_mem_append,
      Issue.forall_mem_onlyIf, Issue.path_error, Issue.path_warning]
    simp [fieldPaths]
  intro i hi
  rcases List.mem_append.1 hi with hi | hi
  · exact .inr (hfields i hi)
  · exact .inl hi

theorem isOfSyntax_of_mem_issues : ∀ i ∈ d.issues, i.isOfSyntax = true := by
  intro i hi
  rw [Issue.isOfSyntax]
  rcases path_of_mem_issues i hi with hi | hfield
  · rw [(of_mem_escapeIssues i hi).2]
    rfl
  · revert hfield
    generalize i.path = path
    revert path
    decide

end Delimiters

namespace Config

variable {c : Config}

/-- The fields that issues other than those of the punctuation are about. -/
def otherPaths : List String :=
  ["limits.max_expansions", "limits.max_placeholder_length", "expressions.max_string_length",
    "expressions.enable_environment"]

theorem path_of_mem_issues :
    ∀ i ∈ c.issues, i ∈ c.delimiters.issues ∨ i.path ∈ otherPaths := by
  have hothers : ∀ i ∈ c.limits.issues ++ c.settings.issues, i.path ∈ otherPaths := by
    simp only [Limits.issues, Settings.issues, List.forall_mem_append, Issue.forall_mem_onlyIf,
      Issue.path_error, Issue.path_warning]
    simp [otherPaths]
  intro i hi
  rw [issues, List.append_assoc] at hi
  rcases List.mem_append.1 hi with hi | hi
  · exact .inl hi
  · exact .inr (hothers i hi)

/-- **What makes a configuration valid.** -/
theorem isValid_iff : c.isValid = true ↔ c.delimiters.Accepted ∧ 0 < c.limits.bodyLength := by
  have hlimits : (∀ i ∈ c.limits.issues, i.isError = false) ↔ 0 < c.limits.bodyLength := by
    simp only [Limits.issues, List.forall_mem_append, Issue.forall_mem_onlyIf,
      Issue.isError_error, Issue.isError_warning]
    simp [Nat.pos_iff_ne_zero]
  have hsettings : ∀ i ∈ c.settings.issues, i.isError = false := by
    simp only [Settings.issues, List.forall_mem_append, Issue.forall_mem_onlyIf]
    exact ⟨⟨fun _ => rfl, fun _ => rfl⟩, fun _ => rfl⟩
  rw [isValid, errors, List.isEmpty_iff, List.filter_eq_nil_iff, Delimiters.accepted_iff]
  simp only [Bool.not_eq_true, issues, List.forall_mem_append, and_iff_left hsettings, hlimits]

/-- **What makes the punctuation of a configuration free of issues.** -/
theorem quiet_iff :
    (∀ i ∈ c.issues, i.isOfSyntax = false) ↔ c.delimiters.Quiet := by
  rw [← Delimiters.issues_eq_nil_iff, List.eq_nil_iff_forall_not_mem]
  constructor
  · intro h i hi
    have hno := h i (by simp [issues, hi])
    rw [Delimiters.isOfSyntax_of_mem_issues i hi] at hno
    cases hno
  · intro h i hi
    have hpath := (path_of_mem_issues i hi).resolve_left (h i)
    revert hpath
    rw [Issue.isOfSyntax]
    generalize i.path = path
    revert path
    decide

/-- The escape has a field of its own. -/
theorem exists_escape_error_iff :
    (∃ i ∈ c.errors, i.path = "syntax.escape") ↔ c.delimiters.escapeIssues ≠ [] := by
  constructor
  · rintro ⟨i, hi, hpath⟩ hnil
    obtain ⟨hi, -⟩ := List.mem_filter.1 hi
    rcases path_of_mem_issues i hi with hi | hother
    · rcases Delimiters.path_of_mem_issues i hi with hi | hfield
      · rw [hnil] at hi
        cases hi
      · rw [hpath] at hfield
        exact absurd hfield (by decide)
    · rw [hpath] at hother
      exact absurd hother (by decide)
  · intro h
    obtain ⟨i, hi⟩ := List.exists_mem_of_ne_nil _ h
    obtain ⟨herror, hpath⟩ := Delimiters.of_mem_escapeIssues i hi
    refine ⟨i, ?_, hpath⟩
    simp [errors, issues, Delimiters.issues, hi, herror]

end Config

end Stencil
