import Stencil.Proofs.Reading

/-!
# Spelling a call

How a call can be written so that it is read back as it was: every value in double quotes, with a
backslash in front of each quote and backslash in it, and blanks wherever they may stand
(`Call.Spells`). It is a relation, since one call has many spellings; reading is the way back
(`ofBody_of_spells`), for all punctuation that collides with nothing and tells a separator from a
closing bracket. The equals sign may be punctuation as well, since no value is bare here.
-/

namespace Stencil

open Text

/-! ### The spellings of a call -/

/-- A character of a value in double quotes. -/
def spellChar (c : Char) : List Char := if c == '"' || c == '\\' then ['\\', c] else [c]

/-- A value in double quotes. -/
def spellValue (value : String) : List Char := '"' :: (value.toList.flatMap spellChar ++ ['"'])

/-- The spellings of an argument: its value in quotes, with its name and an equals sign in front if
    it has a name, and blanks everywhere. -/
inductive Argument.Spells : Argument → List Char → Prop
  | positional {value : String} {b₁ b₂ : List Char} (h₁ : Blanks b₁) (h₂ : Blanks b₂) :
      Spells (.positional value) (b₁ ++ spellValue value ++ b₂)
  | named {name value : String} {b₁ b₂ b₃ b₄ : List Char} (hname : isIdentifier name = true)
      (h₁ : Blanks b₁) (h₂ : Blanks b₂) (h₃ : Blanks b₃) (h₄ : Blanks b₄) :
      Spells (.named name value)
        (b₁ ++ name.toList ++ b₂ ++ '=' :: (b₃ ++ spellValue value ++ b₄))

/-- The spellings of a call with brackets, between which there may be no argument. -/
inductive Call.Spells (d : Delimiters) : Call → List Char → Prop
  | bare {identifier : String} {b₁ b₂ b₃ b₄ : List Char} (hid : isIdentifier identifier = true)
      (h₁ : Blanks b₁) (h₂ : Blanks b₂) (h₃ : Blanks b₃) (h₄ : Blanks b₄) :
      Spells d ⟨identifier, []⟩
        (b₁ ++ (identifier.toList ++ b₂ ++ d.argsOpen :: (b₃ ++ [d.argsClose])) ++ b₄)
  | given {call : Call} {b₁ b₂ b₃ s : List Char} (hid : isIdentifier call.identifier = true)
      (h₁ : Blanks b₁) (h₂ : Blanks b₂) (h₃ : Blanks b₃)
      (hargs : Joined d Argument.Spells call.arguments s) :
      Spells d call
        (b₁ ++ (call.identifier.toList ++ b₂ ++ d.argsOpen :: (s ++ [d.argsClose])) ++ b₃)

/-! ### Writing a call out -/

/-- An argument written out: its value in quotes, behind its name and an equals sign if it has a
    name. -/
def Argument.written (a : Argument) : List Char :=
  match a.name with
  | some name => name.toList ++ '=' :: spellValue a.value
  | none => spellValue a.value

/-- A call written out, with a gap behind each separator. -/
def Call.quoted (d : Delimiters) (gap : List Char) (call : Call) : List Char :=
  call.identifier.toList ++ d.argsOpen ::
    ((d.separator :: gap).intercalate (call.arguments.map Argument.written) ++ [d.argsClose])

/-- The name of an argument, if it has one, is a name. -/
def Argument.HasProperName (a : Argument) : Prop :=
  ∀ name, a.name = some name → isIdentifier name = true

theorem Argument.hasProperName_positional (value : String) : (positional value).HasProperName :=
  nofun

theorem Argument.hasProperName_named {name : String} (h : isIdentifier name = true)
    (value : String) : (named name value).HasProperName := by
  rintro _ ⟨⟩
  exact h

section Written

variable {d : Delimiters} {a : Argument} {as : List Argument} {b gap : List Char}

theorem Argument.spells_written (h : a.HasProperName) (hb : Blanks b) :
    a.Spells (b ++ a.written) := by
  obtain ⟨name, value⟩ := a
  cases name with
  | none =>
    have hspells : Argument.Spells (.positional value) (b ++ spellValue value ++ []) :=
      .positional hb .nil
    rw [List.append_nil] at hspells
    exact hspells
  | some name =>
    have hspells : Argument.Spells (.named name value)
        (b ++ name.toList ++ [] ++ '=' :: ([] ++ spellValue value ++ [])) :=
      .named (h name rfl) hb .nil .nil .nil
    rw [List.nil_append, List.append_nil, List.append_nil, List.append_assoc] at hspells
    exact hspells

theorem joined_intercalate (hne : as ≠ []) (has : ∀ a ∈ as, a.HasProperName)
    (hb : Blanks b) (hgap : Blanks gap) :
    Joined d Argument.Spells as
      (b ++ (d.separator :: gap).intercalate (as.map Argument.written)) := by
  induction as generalizing b with
  | nil => exact absurd rfl hne
  | cons a more ih =>
    obtain ⟨ha, hmore⟩ := List.forall_mem_cons.1 has
    cases more with
    | nil =>
      rw [List.map_singleton, List.intercalate_singleton]
      exact .one (Argument.spells_written ha hb)
    | cons a' more =>
      have hrest := ih (List.cons_ne_nil a' more) hmore hgap
      have hall := Joined.cons (Argument.spells_written ha hb) hrest
      rw [List.map_cons, List.map_cons, List.intercalate_cons_cons, List.append_assoc,
        ← List.append_assoc]
      exact hall

theorem Call.spells_quoted {call : Call} (d : Delimiters)
    (hid : isIdentifier call.identifier = true)
    (hargs : ∀ a ∈ call.arguments, a.HasProperName) (hgap : Blanks gap) :
    call.Spells d (call.quoted d gap) := by
  obtain ⟨identifier, as⟩ := call
  by_cases has : as = []
  · subst has
    have hspells : Call.Spells d ⟨identifier, []⟩
        ([] ++ (identifier.toList ++ [] ++ d.argsOpen :: ([] ++ [d.argsClose])) ++ []) :=
      .bare hid .nil .nil .nil .nil
    rw [List.nil_append, List.append_nil, List.append_nil] at hspells
    exact hspells
  · have hspelled := joined_intercalate (d := d) has hargs .nil hgap
    have hspells : Call.Spells d ⟨identifier, as⟩ ([] ++ (identifier.toList ++ [] ++ d.argsOpen ::
        ([] ++ (d.separator :: gap).intercalate (as.map Argument.written) ++ [d.argsClose])) ++
          []) := .given hid .nil .nil .nil hspelled
    rw [List.nil_append, List.append_nil, List.append_nil] at hspells
    exact hspells

end Written

/-! ### Reading a spelling -/

theorem quotation_spelled (value : List Char) : Quotation (value.flatMap spellChar) value := by
  induction value with
  | nil => exact .nil
  | cons c value ih =>
    rw [List.flatMap_cons, spellChar]
    split
    · next hspecial => exact .escaped (by simpa using hspecial) ih
    · next hplain =>
      simp only [Bool.or_eq_true, beq_iff_eq, not_or] at hplain
      exact .plain hplain.1 hplain.2 ih

theorem spellValue_append (value : String) (rest : List Char) :
    spellValue value ++ rest = '"' :: (value.toList.flatMap spellChar ++ '"' :: rest) := by
  rw [spellValue, List.cons_append, List.append_assoc, List.singleton_append]

theorem ValueForm.of_spelled {b₁ b₂ : List Char} (h₁ : Blanks b₁) (h₂ : Blanks b₂)
    (stops : List Char) (value : String) :
    ValueForm stops value.toList (b₁ ++ spellValue value ++ b₂) := by
  rw [List.append_assoc, spellValue_append]
  exact .quoted h₁ h₂ (quotation_spelled value.toList)

namespace Body

variable {d : Delimiters}

theorem readsAs_of_spells (hd : d.Legible) {a : Argument} {s : List Char} (ha : a.Spells s) :
    ReadsAs d a s := by
  intro c hc rest
  cases ha with
  | @positional value b₁ b₂ h₁ h₂ =>
    have hread := argument_of_quotation (d := d) ((stops_value hd).blank c hc) h₁ h₂
      (quotation_spelled value.toList) rest
    rw [String.ofList_toList] at hread
    rw [List.append_assoc b₁, spellValue_append]
    exact hread
  | @named name value b₁ b₂ b₃ b₄ hname h₁ h₂ h₃ h₄ =>
    have hread := argument_of_name hd hc hname h₁ h₂ (.of_spelled h₃ h₄ _ value) rest
    rw [String.ofList_toList] at hread
    exact hread

theorem trimLeft_spelled {a : Argument} {s : List Char} (ha : a.Spells s) :
    ∃ c, (isNameChar c = true ∨ c = '"') ∧ ∀ rest, ∃ t, trimLeft (s ++ rest) = c :: t := by
  cases ha with
  | positional h₁ _ =>
    refine ⟨'"', .inr rfl, ?_⟩
    intro rest
    rw [List.append_assoc, List.append_assoc, trimLeft_blanks h₁, spellValue_append,
      trimLeft_cons (by decide)]
    exact ⟨_, rfl⟩
  | named hname h₁ _ _ _ =>
    obtain ⟨c, cs, hcons, hc⟩ := exists_cons_of_isIdentifier hname
    refine ⟨c, .inl hc, ?_⟩
    intro rest
    rw [hcons]
    simp only [List.append_assoc, trimLeft_blanks h₁, List.cons_append,
      trimLeft_cons (not_isBlank_of_isNameChar hc)]
    exact ⟨_, rfl⟩

theorem bracketed_spelled (hd : d.Legible) {as : List Argument} {s : List Char}
    (h : Joined d Argument.Spells as s) (rest : List Char) :
    bracketed d (s ++ d.argsClose :: rest) = .ok (as, rest) := by
  obtain ⟨hname, -, hquote⟩ := collides_eq_false_iff.1 hd.argsClose
  have hfirst : ∃ c, (isNameChar c = true ∨ c = '"') ∧
      ∃ t, trimLeft (s ++ d.argsClose :: rest) = c :: t := by
    cases h with
    | one ha =>
      obtain ⟨c, hc, hcons⟩ := trimLeft_spelled ha
      exact ⟨c, hc, hcons _⟩
    | cons ha _ =>
      obtain ⟨c, hc, hcons⟩ := trimLeft_spelled ha
      rw [List.append_assoc]
      exact ⟨c, hc, hcons _⟩
  obtain ⟨c, hfirst, t, hcons⟩ := hfirst
  have hc : c ≠ d.argsClose := by
    rintro rfl
    rcases hfirst with hfirst | hfirst
    · exact absurd hfirst (by rw [hname]; exact Bool.false_ne_true)
    · exact hquote hfirst
  rw [bracketed_of_no_close]
  · exact arguments_of_joined hd (readsAs_of_spells hd) h rest
  · intro r hr
    rw [hcons] at hr
    exact hc (List.cons.inj hr).1

end Body

/-- **Every spelling of a call is read as that call.** -/
theorem Call.ofBody_of_spells {d : Delimiters} (hd : d.Legible) {call : Call} {body : List Char}
    (h : call.Spells d body) : Call.ofBody d body = .ok call := by
  cases h with
  | bare hid h₁ h₂ h₃ h₄ =>
    exact ofBody_of_bracketed hd hid h₁ h₂ h₄ (Body.bracketed_bare hd h₃ [])
  | given hid h₁ h₂ h₃ hargs =>
    exact ofBody_of_bracketed hd hid h₁ h₂ h₃ (Body.bracketed_spelled hd hargs [])

end Stencil
