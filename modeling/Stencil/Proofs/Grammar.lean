import Stencil.Config.Check
import Stencil.Proofs.Trimming

/-!
# The grammar of bodies

Which bodies are calls, said by rules that do not know how a body is read. A value is a quotation
or a bare text (`ValueForm`), an argument is a value with or without a name (`Argument.Form`), and
a call is an identifier with or without arguments in brackets (`Call.Form`). Blanks may stand
around every part.

Below the rules stands how the two kinds of values are told apart and where they end
(`Body.quoted_iff`, `Body.bare_iff`).
-/

namespace Stencil

open Text

/-! ### The rules -/

/-- What may stand between two double quotes, and the text that it means. -/
inductive Quotation : List Char → List Char → Prop
  | nil : Quotation [] []
  | plain {c : Char} {s value : List Char} (hquote : c ≠ '"') (hslash : c ≠ '\\')
      (h : Quotation s value) : Quotation (c :: s) (c :: value)
  | escaped {c : Char} {s value : List Char} (hc : c = '"' ∨ c = '\\') (h : Quotation s value) :
      Quotation ('\\' :: c :: s) (c :: value)
  | kept {c : Char} {s value : List Char} (hquote : c ≠ '"') (hslash : c ≠ '\\')
      (h : Quotation s value) : Quotation ('\\' :: c :: s) ('\\' :: c :: value)

/-- A text without quotes around it, which one of some characters ends. -/
structure Bare (stops t : List Char) : Prop where
  trimmed : Trimmed t
  quote : '"' ∉ t.head?
  disjoint : ∀ c ∈ t, c ∉ stops

/-- The forms of a value, with the blanks around it. -/
inductive ValueForm (stops : List Char) : List Char → List Char → Prop
  | quoted {value s b₁ b₂ : List Char} (h₁ : Blanks b₁) (h₂ : Blanks b₂)
      (hvalue : Quotation s value) : ValueForm stops value (b₁ ++ '"' :: (s ++ '"' :: b₂))
  | bare {value b₁ b₂ : List Char} (h₁ : Blanks b₁) (h₂ : Blanks b₂)
      (hvalue : Bare stops value) : ValueForm stops value (b₁ ++ value ++ b₂)

/-- The forms of an argument. An equals sign ends a bare value only where it would make a name of
    it. -/
inductive Argument.Form (d : Delimiters) : Argument → List Char → Prop
  | positional {value s : List Char}
      (hvalue : ValueForm [d.separator, d.argsClose, '='] value s) :
      Form d (.positional (String.ofList value)) s
  | named {name : String} {value s b₁ b₂ : List Char} (hname : isIdentifier name = true)
      (h₁ : Blanks b₁) (h₂ : Blanks b₂) (hvalue : ValueForm [d.separator, d.argsClose] value s) :
      Form d (.named name (String.ofList value)) (b₁ ++ name.toList ++ b₂ ++ '=' :: s)

/-- At least one argument, each in a form of its own, and a separator between any two. -/
inductive Joined (d : Delimiters) (form : Argument → List Char → Prop) :
    List Argument → List Char → Prop
  | one {a : Argument} {s : List Char} (ha : form a s) : Joined d form [a] s
  | cons {a : Argument} {s : List Char} {more : List Argument} {t : List Char} (ha : form a s)
      (hmore : Joined d form more t) : Joined d form (a :: more) (s ++ d.separator :: t)

/-- The forms of what stands between the brackets. Blanks alone are no argument. -/
inductive BracketForm (d : Delimiters) : List Argument → List Char → Prop
  | blank {s : List Char} (hs : Blanks s) : BracketForm d [] s
  | given {as : List Argument} {s : List Char} (hs : ¬ Blanks s)
      (has : Joined d (Argument.Form d) as s) : BracketForm d as s

/-- The forms of a call. -/
inductive Call.Form (d : Delimiters) : Call → List Char → Prop
  | alone {identifier : String} {b₁ b₂ : List Char} (hid : isIdentifier identifier = true)
      (h₁ : Blanks b₁) (h₂ : Blanks b₂) :
      Form d ⟨identifier, []⟩ (b₁ ++ identifier.toList ++ b₂)
  | bracketed {identifier : String} {as : List Argument} {s b₁ b₂ b₃ : List Char}
      (hid : isIdentifier identifier = true) (h₁ : Blanks b₁) (h₂ : Blanks b₂) (h₃ : Blanks b₃)
      (has : BracketForm d as s) :
      Form d ⟨identifier, as⟩
        (b₁ ++ (identifier.toList ++ b₂ ++ d.argsOpen :: (s ++ [d.argsClose])) ++ b₃)

/-- Punctuation of arguments that collides with nothing, and in which a separator does not
    close. -/
structure Delimiters.Legible (d : Delimiters) : Prop where
  argsOpen : collides d.argsOpen = false
  argsClose : collides d.argsClose = false
  separator : collides d.separator = false
  distinct : d.separator ≠ d.argsClose

theorem Delimiters.legible_standard : Delimiters.standard.Legible :=
  ⟨by decide, by decide, by decide, by decide⟩

/-- Punctuation that leaves the equals sign to the names of arguments. -/
structure Delimiters.Unambiguous (d : Delimiters) : Prop extends d.Legible where
  separator_ne : d.separator ≠ '='
  argsClose_ne : d.argsClose ≠ '='

namespace Body

variable {d : Delimiters} {s value after rest t : List Char} {c : Char} {a : Argument}

theorem collides_eq_false_iff {c : Char} :
    Delimiters.collides c = false ↔ isNameChar c = false ∧ isBlank c = false ∧ c ≠ '"' := by
  simp only [Delimiters.collides, Bool.or_eq_false_iff, beq_eq_false_iff_ne, and_assoc]

/-! ### Values -/

theorem quoted_cons {c : Char} (hquote : c ≠ '"') (hescape : c ≠ '\\') (s : List Char) :
    quoted (c :: s) = (quoted s).map fun (value, after) => (c :: value, after) := by
  rw [quoted]
  · exact fun h => hquote h
  · intro h
    exact absurd h hescape
  · intro _ _ h
    exact absurd h hescape

theorem quoted_of_quotation (h : Quotation s value) (rest : List Char) :
    quoted (s ++ '"' :: rest) = some (value, rest) := by
  induction h with
  | nil => rw [List.nil_append, quoted]
  | plain hquote hslash _ ih => rw [List.cons_append, quoted_cons hquote hslash, ih]; rfl
  | escaped hc _ ih =>
    rw [List.cons_append, List.cons_append, quoted, ih]
    rcases hc with rfl | rfl <;> rfl
  | kept hquote hslash _ ih =>
    rw [List.cons_append, List.cons_append, quoted, ih, Option.map_some]
    simp [hquote, hslash]

theorem quotation_of_quoted (h : quoted s = some (value, rest)) :
    ∃ t, Quotation t value ∧ s = t ++ '"' :: rest := by
  fun_induction quoted s generalizing value rest with
  | case1 => cases h
  | case2 rest =>
    cases h
    exact ⟨[], .nil, rfl⟩
  | case3 => cases h
  | case4 c s ih =>
    obtain ⟨⟨v, r⟩, hread, hv⟩ := Option.map_eq_some_iff.1 h
    obtain ⟨t, ht, rfl⟩ := ih hread
    by_cases hc : (c == '"' || c == '\\') = true
    · simp only [hc, if_true, Prod.mk.injEq] at hv
      obtain ⟨rfl, rfl⟩ := hv
      exact ⟨'\\' :: c :: t, .escaped (by simpa using hc) ht, rfl⟩
    · simp only [hc, Bool.false_eq_true, if_false, Prod.mk.injEq] at hv
      obtain ⟨rfl, rfl⟩ := hv
      simp only [Bool.or_eq_true, beq_iff_eq, not_or] at hc
      exact ⟨'\\' :: c :: t, .kept hc.1 hc.2 ht, rfl⟩
  | case5 c s hquote hlast hslash ih =>
    have hc : c ≠ '\\' := by
      rintro rfl
      cases s with
      | nil => exact hlast rfl rfl
      | cons a s => exact hslash a s rfl rfl
    obtain ⟨⟨v, r⟩, hread, hv⟩ := Option.map_eq_some_iff.1 h
    obtain ⟨t, ht, rfl⟩ := ih hread
    cases hv
    exact ⟨c :: t, .plain hquote hc ht, rfl⟩

/-- A quotation behind blanks is read up to its closing quote. -/
theorem quoted_iff :
    (∃ r after, trimLeft s = '"' :: r ∧ quoted r = some (value, after) ∧
        trimLeft after = c :: rest) ↔
      isBlank c = false ∧ ∃ b₁ t b₂, Blanks b₁ ∧ Blanks b₂ ∧ Quotation t value ∧
        s = b₁ ++ '"' :: (t ++ '"' :: b₂) ++ c :: rest := by
  constructor
  · rintro ⟨r, after, hopen, hread, hafter⟩
    obtain ⟨-, b₁, h₁, rfl⟩ := trimLeft_eq_cons_iff.1 hopen
    obtain ⟨t, ht, rfl⟩ := quotation_of_quoted hread
    obtain ⟨hc, b₂, h₂, rfl⟩ := trimLeft_eq_cons_iff.1 hafter
    exact ⟨hc, b₁, t, b₂, h₁, h₂, ht, by simp⟩
  · rintro ⟨hc, b₁, t, b₂, h₁, h₂, ht, rfl⟩
    refine ⟨t ++ '"' :: (b₂ ++ c :: rest), b₂ ++ c :: rest, ?_, ?_, ?_⟩
    · exact trimLeft_eq_cons_iff.2 ⟨by decide, b₁, h₁, by simp⟩
    · exact quoted_of_quotation ht _
    · exact trimLeft_eq_cons_iff.2 ⟨hc, b₂, h₂, rfl⟩

/-- The characters that end a bare text, and what passes all others. -/
structure Stops (p : Char → Bool) (stops : List Char) : Prop where
  pass : ∀ c, p c = true ↔ c ∉ stops
  blank : ∀ c ∈ stops, isBlank c = false
  quote : '"' ∉ stops

section Stops

variable {p : Char → Bool} {stops : List Char} (hp : Stops p stops)
include hp

theorem mem_of_dropWhile {u : List Char} (h : u.dropWhile p = c :: rest) : c ∈ stops := by
  have hhead := List.head?_dropWhile_not p u
  rw [h] at hhead
  by_contra hno
  exact absurd ((hp.pass c).2 hno) (by rw [hhead]; exact Bool.false_ne_true)

/-- There is no blank in front of the character that has ended a text. -/
theorem dropWhile_eq_cons {u : List Char} (h : trimLeft (u.dropWhile p) = c :: rest) :
    u.dropWhile p = c :: rest := by
  cases hdrop : u.dropWhile p with
  | nil =>
    rw [hdrop] at h
    cases h
  | cons a r =>
    rw [hdrop, trimLeft_cons (hp.blank a (mem_of_dropWhile hp hdrop))] at h
    exact h

theorem exists_trimLeft_bare (hc : c ∈ stops) {b₁ b₂ : List Char} (h₁ : Blanks b₁)
    (h₂ : Blanks b₂) (hvalue : Bare stops value) (rest : List Char) :
    ∃ b, Blanks b ∧ trimLeft (b₁ ++ value ++ b₂ ++ c :: rest) = value ++ b ++ c :: rest ∧
      '"' ∉ (value ++ b ++ c :: rest).head? := by
  cases value with
  | nil =>
    -- nothing but blanks is in front of the character that ends an empty text
    refine ⟨[], .nil, ?_, ?_⟩
    · rw [List.append_nil, trimLeft_blanks (h₁.append h₂), trimLeft_cons (hp.blank c hc)]
      rfl
    · intro hhead
      obtain rfl : c = '"' := Option.some.inj hhead
      exact hp.quote hc
  | cons a t =>
    refine ⟨b₂, h₂, ?_, hvalue.quote⟩
    have ha : isBlank a = false := hvalue.trimmed.first a rfl
    rw [List.append_assoc, List.append_assoc, trimLeft_blanks h₁]
    simp only [List.cons_append, List.append_assoc, trimLeft_cons ha]

theorem bare_of_read (hfirst : '"' ∉ (trimLeft s).head?) :
    Bare stops (trim ((trimLeft s).takeWhile p)) := by
  obtain ⟨b₁, b₂, -, -, htrimmed, htake⟩ := exists_trim ((trimLeft s).takeWhile p)
  refine ⟨htrimmed, ?_, ?_⟩
  · intro hquote
    -- what has been passed begins like the whole text, so not with a blank
    cases hread : (trimLeft s).takeWhile p with
    | nil =>
      rw [hread] at hquote
      cases hquote
    | cons a t =>
      have hall : trimLeft s = a :: (t ++ (trimLeft s).dropWhile p) := by
        rw [← List.cons_append, ← hread, List.takeWhile_append_dropWhile]
      have ha : isBlank a = false := not_isBlank_of_mem_head? (s := s) (by rw [hall]; rfl)
      rw [hread] at hquote
      have hquote := mem_head?_trimLeft hquote
      rw [trimLeft_cons ha] at hquote
      rw [hall] at hfirst
      exact hfirst hquote
  · intro a ha
    have hmem : a ∈ (trimLeft s).takeWhile p := by
      rw [htake]
      exact List.mem_append_left b₂ (List.mem_append_right b₁ ha)
    exact (hp.pass a).1 (List.mem_takeWhile_imp hmem)

/-- A bare text is read up to the first character that ends it, and trimmed. -/
theorem bare_iff :
    ('"' ∉ (trimLeft s).head? ∧ trim ((trimLeft s).takeWhile p) = value ∧
        (trimLeft s).dropWhile p = c :: rest) ↔
      c ∈ stops ∧ ∃ b₁ b₂, Blanks b₁ ∧ Blanks b₂ ∧ Bare stops value ∧
        s = b₁ ++ value ++ b₂ ++ c :: rest := by
  constructor
  · rintro ⟨hfirst, rfl, hdrop⟩
    obtain ⟨b, hb, hs⟩ := exists_trimLeft s
    obtain ⟨b₁, b₂, h₁, h₂, -, htake⟩ := exists_trim ((trimLeft s).takeWhile p)
    refine ⟨mem_of_dropWhile hp hdrop, b ++ b₁, b₂, hb.append h₁, h₂, bare_of_read hp hfirst, ?_⟩
    calc s = b ++ trimLeft s := hs
      _ = b ++ ((trimLeft s).takeWhile p ++ c :: rest) := by
        rw [← hdrop, List.takeWhile_append_dropWhile]
      _ = b ++ b₁ ++ trim ((trimLeft s).takeWhile p) ++ b₂ ++ c :: rest := by
        rw [List.append_assoc b, List.append_assoc b, ← htake, List.append_assoc]
  · rintro ⟨hc, b₁, b₂, h₁, h₂, hvalue, rfl⟩
    obtain ⟨b, hb, hleft, hfirst⟩ := exists_trimLeft_bare hp hc h₁ h₂ hvalue rest
    have hpass : ∀ a ∈ value ++ b, p a = true := by
      intro a ha
      rw [hp.pass]
      rcases List.mem_append.1 ha with ha | ha
      · exact hvalue.disjoint a ha
      · intro hstop
        have hno := hp.blank a hstop
        rw [hb a ha] at hno
        cases hno
    have hend : p c = false := by
      rw [← Bool.not_eq_true, hp.pass]
      exact fun hno => hno hc
    obtain ⟨htake, hdrop⟩ := takeWhile_append_cons hpass hend rest
    rw [hleft, htake, hdrop]
    exact ⟨hfirst, hvalue.trimmed.trim .nil hb, rfl⟩

end Stops

/-- What ends a name or a bare value that may be one. -/
theorem stops_token (hd : d.Legible) :
    Stops (fun c => !endsToken d c) [d.separator, d.argsClose, '='] := by
  obtain ⟨-, hsep, hsep'⟩ := collides_eq_false_iff.1 hd.separator
  obtain ⟨-, hclose, hclose'⟩ := collides_eq_false_iff.1 hd.argsClose
  refine ⟨fun c => by simp [endsToken, endsValue, and_assoc], ?_,
    by simp [hsep'.symm, hclose'.symm]⟩
  intro c hc
  simp only [List.mem_cons, List.not_mem_nil, or_false] at hc
  rcases hc with rfl | rfl | rfl
  · exact hsep
  · exact hclose
  · decide

theorem not_isNameChar_of_stops (hd : d.Legible) (hc : c ∈ [d.separator, d.argsClose, '=']) :
    isNameChar c = false := by
  simp only [List.mem_cons, List.not_mem_nil, or_false] at hc
  rcases hc with rfl | rfl | rfl
  · exact (collides_eq_false_iff.1 hd.separator).1
  · exact (collides_eq_false_iff.1 hd.argsClose).1
  · decide

/-- What ends a bare value behind an equals sign. -/
theorem stops_value (hd : d.Legible) :
    Stops (fun c => !endsValue d c) [d.separator, d.argsClose] := by
  have hsub : [d.separator, d.argsClose] ⊆ [d.separator, d.argsClose, '='] :=
    List.subset_append_left _ ['=']
  refine ⟨fun c => by simp [endsValue], fun c hc => (stops_token hd).blank c (hsub hc), ?_⟩
  exact fun hquote => (stops_token hd).quote (hsub hquote)

theorem bare_of_isIdentifier (hd : d.Legible) {name : String} (hname : isIdentifier name = true) :
    Bare [d.separator, d.argsClose, '='] name.toList := by
  obtain ⟨-, hchars⟩ := isIdentifier_iff.1 hname
  have hblank : ∀ c ∈ name.toList, isBlank c = false :=
    fun c hc => not_isBlank_of_isNameChar (hchars c hc)
  refine ⟨⟨?_, ?_⟩, ?_, ?_⟩
  · exact fun c hc => hblank c (List.mem_of_mem_head? hc)
  · exact fun c hc => hblank c (List.mem_of_mem_getLast? hc)
  · intro hquote
    exact absurd (hchars _ (List.mem_of_mem_head? hquote)) (by decide)
  · intro c hc hstop
    have hno := not_isNameChar_of_stops hd hstop
    rw [hchars c hc] at hno
    cases hno

end Body

end Stencil
