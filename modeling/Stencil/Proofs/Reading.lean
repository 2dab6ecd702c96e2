import Stencil.Proofs.Grammar

/-!
# Reading follows the grammar

Each function that reads a part of a body accepts exactly the forms of this part. What it says about
a text depends on the character behind it, which ends a bare text and decides how the reading goes
on; so the text in front of that character is what has the form. From the values on, this climbs
through the arguments and the brackets to the whole body, for which nothing is left behind.
-/

namespace Stencil

open Text

namespace Body

variable {d : Delimiters} {s value after rest t : List Char} {c : Char} {a : Argument}

/-! ### Arguments -/

theorem namedValue_of_quote {r : List Char} (h : trimLeft s = '"' :: r) :
    namedValue d s =
      match quoted r with
      | some (value, after) => .ok (String.ofList value, after)
      | none => .error .unterminatedQuote := by
  rw [namedValue, h]
  rfl

theorem namedValue_of_bare (h : '"' ∉ (trimLeft s).head?) :
    namedValue d s =
      .ok (String.ofList (trim ((trimLeft s).takeWhile fun c => !endsValue d c)),
        (trimLeft s).dropWhile fun c => !endsValue d c) := by
  rw [namedValue]
  split
  · next r hr =>
    rw [hr] at h
    exact absurd rfl h
  · rfl

theorem argument_of_quote {r : List Char} (h : trimLeft s = '"' :: r) :
    argument d s =
      match quoted r with
      | some (value, after) => .ok (.positional (String.ofList value), after)
      | none => .error .unterminatedQuote := by
  rw [argument, h]
  rfl

theorem argument_of_bare (h : '"' ∉ (trimLeft s).head?) :
    argument d s =
      let token := String.ofList (trim ((trimLeft s).takeWhile fun c => !endsToken d c))
      match (trimLeft s).dropWhile fun c => !endsToken d c with
      | '=' :: after =>
        if isIdentifier token then
          match namedValue d after with
          | .ok (value, after) => .ok (.named token value, after)
          | .error e => .error e
        else .error (.invalidName token)
      | after => .ok (.positional token, after) := by
  rw [argument]
  split
  · next r hr =>
    rw [hr] at h
    exact absurd rfl h
  · rfl

/-- A value behind an equals sign is read up to a separator or a closing bracket. -/
theorem namedValue_iff (hd : d.Legible) (hc : c ∈ [d.separator, d.argsClose]) {v : String} :
    (∃ after, namedValue d s = .ok (v, after) ∧ trimLeft after = c :: rest) ↔
      ∃ value t, v = String.ofList value ∧ ValueForm [d.separator, d.argsClose] value t ∧
        s = t ++ c :: rest := by
  have hstops := stops_value hd
  constructor
  · rintro ⟨after, hread, hafter⟩
    by_cases hfirst : '"' ∈ (trimLeft s).head?
    · obtain ⟨r, hr⟩ := List.head?_eq_some_iff.1 hfirst
      rw [namedValue_of_quote hr] at hread
      split at hread
      · next value after' hquoted =>
        cases hread
        obtain ⟨-, b₁, t, b₂, h₁, h₂, ht, rfl⟩ := quoted_iff.1 ⟨r, after, hr, hquoted, hafter⟩
        exact ⟨value, _, rfl, .quoted h₁ h₂ ht, rfl⟩
      · cases hread
    · rw [namedValue_of_bare hfirst] at hread
      cases hread
      have hdrop := dropWhile_eq_cons hstops hafter
      obtain ⟨-, b₁, b₂, h₁, h₂, hvalue, hs⟩ := (bare_iff hstops).1 ⟨hfirst, rfl, hdrop⟩
      exact ⟨_, _, rfl, .bare h₁ h₂ hvalue, hs⟩
  · rintro ⟨value, t, rfl, hform, rfl⟩
    cases hform with
    | quoted h₁ h₂ hvalue =>
      obtain ⟨r, after, hr, hread, hafter⟩ :=
        quoted_iff.2 ⟨hstops.blank c hc, _, _, _, h₁, h₂, hvalue, rfl⟩
      refine ⟨after, ?_, hafter⟩
      rw [namedValue_of_quote hr, hread]
    | bare h₁ h₂ hvalue =>
      obtain ⟨hfirst, htrim, hdrop⟩ := (bare_iff hstops).2 ⟨hc, _, _, h₁, h₂, hvalue, rfl⟩
      refine ⟨c :: rest, ?_, trimLeft_cons (hstops.blank c hc) rest⟩
      rw [namedValue_of_bare hfirst, htrim, hdrop]

theorem form_of_argument (hd : d.Legible) (hc : c ∈ [d.separator, d.argsClose])
    (hread : argument d s = .ok (a, after)) (hafter : trimLeft after = c :: rest) :
    ∃ t, a.Form d t ∧ s = t ++ c :: rest := by
  have hstops := stops_token hd
  by_cases hfirst : '"' ∈ (trimLeft s).head?
  · obtain ⟨r, hr⟩ := List.head?_eq_some_iff.1 hfirst
    rw [argument_of_quote hr] at hread
    split at hread
    · next value after' hquoted =>
      cases hread
      obtain ⟨-, b₁, t, b₂, h₁, h₂, ht, rfl⟩ := quoted_iff.1 ⟨r, after, hr, hquoted, hafter⟩
      exact ⟨_, .positional (.quoted h₁ h₂ ht), rfl⟩
    · cases hread
  · rw [argument_of_bare hfirst] at hread
    simp only at hread
    split at hread
    · next after' hdrop =>
      -- an equals sign: what is in front of it has to be a name
      split at hread
      · next hname =>
        split at hread
        · next v after'' hvalue =>
          cases hread
          obtain ⟨value, t, rfl, hform, rfl⟩ := (namedValue_iff hd hc).1 ⟨after, hvalue, hafter⟩
          obtain ⟨-, b₁, b₂, h₁, h₂, -, hs⟩ := (bare_iff hstops).1 ⟨hfirst, rfl, hdrop⟩
          refine ⟨_, .named hname h₁ h₂ hform, ?_⟩
          rw [String.toList_ofList, List.append_assoc _ _ (c :: rest), List.cons_append]
          exact hs
        · cases hread
      · cases hread
    · cases hread
      have hdrop := dropWhile_eq_cons hstops hafter
      obtain ⟨-, b₁, b₂, h₁, h₂, hvalue, hs⟩ := (bare_iff hstops).1 ⟨hfirst, rfl, hdrop⟩
      exact ⟨_, .positional (.bare h₁ h₂ hvalue), hs⟩

theorem argument_of_quotation {b₁ b₂ : List Char} (hc : isBlank c = false) (h₁ : Blanks b₁)
    (h₂ : Blanks b₂) (hvalue : Quotation s value) (rest : List Char) :
    ∃ after, argument d (b₁ ++ '"' :: (s ++ '"' :: b₂) ++ c :: rest) =
        .ok (.positional (String.ofList value), after) ∧ trimLeft after = c :: rest := by
  obtain ⟨r, after, hr, hread, hafter⟩ := quoted_iff.2 ⟨hc, b₁, s, b₂, h₁, h₂, hvalue, rfl⟩
  refine ⟨after, ?_, hafter⟩
  rw [argument_of_quote hr, hread]

theorem argument_of_name (hd : d.Legible) (hc : c ∈ [d.separator, d.argsClose]) {name : String}
    {b₁ b₂ : List Char} (hname : isIdentifier name = true) (h₁ : Blanks b₁) (h₂ : Blanks b₂)
    (hvalue : ValueForm [d.separator, d.argsClose] value s) (rest : List Char) :
    ∃ after, argument d (b₁ ++ name.toList ++ b₂ ++ '=' :: s ++ c :: rest) =
        .ok (.named name (String.ofList value), after) ∧ trimLeft after = c :: rest := by
  obtain ⟨after, hread, hafter⟩ := (namedValue_iff hd hc).2 ⟨value, s, rfl, hvalue, rfl⟩
  have hs : b₁ ++ name.toList ++ b₂ ++ '=' :: s ++ c :: rest =
      b₁ ++ name.toList ++ b₂ ++ '=' :: (s ++ c :: rest) := by
    rw [List.append_assoc _ _ (c :: rest), List.cons_append]
  have hequals : '=' ∈ [d.separator, d.argsClose, '='] := by simp
  have hbare := bare_of_isIdentifier hd hname
  obtain ⟨hfirst, htrim, hdrop⟩ :=
    (bare_iff (stops_token hd)).2 ⟨hequals, b₁, b₂, h₁, h₂, hbare, hs⟩
  refine ⟨after, ?_, hafter⟩
  rw [argument_of_bare hfirst, htrim, hdrop]
  simp only [String.ofList_toList, hname, if_true, hread]

/-- A bare value is positional if anything but an equals sign ends it. -/
theorem argument_of_bare_value (hd : d.Legible) (hc : c ∈ [d.separator, d.argsClose])
    (hequals : c ≠ '=') {b₁ b₂ : List Char} (h₁ : Blanks b₁) (h₂ : Blanks b₂)
    (hvalue : Bare [d.separator, d.argsClose, '='] value) (rest : List Char) :
    argument d (b₁ ++ value ++ b₂ ++ c :: rest) =
      .ok (.positional (String.ofList value), c :: rest) := by
  have hmem : c ∈ [d.separator, d.argsClose, '='] := List.mem_append_left ['='] hc
  obtain ⟨hfirst, htrim, hdrop⟩ :=
    (bare_iff (stops_token hd)).2 ⟨hmem, b₁, b₂, h₁, h₂, hvalue, rfl⟩
  rw [argument_of_bare hfirst, htrim, hdrop]
  split
  · next h =>
    cases h
    exact absurd rfl hequals
  · rfl

/-- A text is read as an argument up to the separator or the closing bracket behind it. -/
def ReadsAs (d : Delimiters) (a : Argument) (t : List Char) : Prop :=
  ∀ c ∈ [d.separator, d.argsClose], ∀ rest,
    ∃ after, argument d (t ++ c :: rest) = .ok (a, after) ∧ trimLeft after = c :: rest

theorem readsAs_of_form (hd : d.Unambiguous) (hform : a.Form d t) : ReadsAs d a t := by
  intro c hc rest
  have hblank : isBlank c = false := (stops_value hd.toLegible).blank c hc
  cases hform with
  | positional hvalue =>
    cases hvalue with
    | quoted h₁ h₂ hvalue => exact argument_of_quotation hblank h₁ h₂ hvalue rest
    | bare h₁ h₂ hvalue =>
      have hequals : c ≠ '=' := by
        -- neither a separator nor a closing bracket makes a name
        rintro rfl
        simp [hd.separator_ne.symm, hd.argsClose_ne.symm] at hc
      exact ⟨c :: rest, argument_of_bare_value hd.toLegible hc hequals h₁ h₂ hvalue rest,
        trimLeft_cons hblank rest⟩
  | named hname h₁ h₂ hvalue => exact argument_of_name hd.toLegible hc hname h₁ h₂ hvalue rest

/-! ### Between the brackets -/

/-- What follows an argument decides how the reading goes on. -/
theorem arguments_of_argument (ha : argument d s = .ok (a, after))
    (hafter : trimLeft after = c :: rest) :
    arguments d s =
      if c == d.separator then
        (arguments d rest).map fun (more, after) => (a :: more, after)
      else if c == d.argsClose then .ok ([a], rest)
      else .error .unclosedArguments := by
  rw [arguments]
  split
  · next e he =>
    rw [ha] at he
    cases he
  · next a' after' hread =>
    rw [ha] at hread
    cases hread
    split
    · next c' rest' hrest =>
      rw [hafter] at hrest
      cases hrest
      split
      · cases arguments d rest <;> rfl
      · rfl
    · next hrest =>
      rw [hafter] at hrest
      cases hrest

theorem arguments_last (hd : d.Legible) (ha : argument d s = .ok (a, after))
    (hafter : trimLeft after = d.argsClose :: rest) : arguments d s = .ok ([a], rest) := by
  rw [arguments_of_argument ha hafter, if_neg (by simpa using hd.distinct.symm),
    if_pos (beq_self_eq_true _)]

theorem arguments_more {more : List Argument} (ha : argument d s = .ok (a, after))
    (hafter : trimLeft after = d.separator :: t) (hmore : arguments d t = .ok (more, rest)) :
    arguments d s = .ok (a :: more, rest) := by
  rw [arguments_of_argument ha hafter, if_pos (beq_self_eq_true _), hmore]
  rfl

theorem exists_of_arguments {as : List Argument} (h : arguments d s = .ok (as, rest)) :
    ∃ a after c r, argument d s = .ok (a, after) ∧ trimLeft after = c :: r ∧
      ((c = d.separator ∧ ∃ more, as = a :: more ∧ arguments d r = .ok (more, rest)) ∨
        (c = d.argsClose ∧ as = [a] ∧ r = rest)) := by
  rw [arguments] at h
  split at h
  · cases h
  · next a after ha =>
    split at h
    · next c r hafter =>
      refine ⟨a, after, c, r, ha, hafter, ?_⟩
      split at h
      · next hsep =>
        split at h
        · next more after' hmore =>
          cases h
          exact .inl ⟨beq_iff_eq.1 hsep, more, rfl, hmore⟩
        · cases h
      · split at h
        · next hclose =>
          cases h
          exact .inr ⟨beq_iff_eq.1 hclose, rfl, rfl⟩
        · cases h
    · cases h

theorem form_of_arguments (hd : d.Legible) {as : List Argument}
    (h : arguments d s = .ok (as, rest)) :
    ∃ t, Joined d (Argument.Form d) as t ∧ s = t ++ d.argsClose :: rest := by
  induction as generalizing s with
  | nil =>
    obtain ⟨a, after, c, r, -, -, hcase⟩ := exists_of_arguments h
    rcases hcase with ⟨-, more, has, -⟩ | ⟨-, has, -⟩
    · cases has
    · cases has
  | cons a as ih =>
    obtain ⟨a', after, c, r, ha, hafter, hcase⟩ := exists_of_arguments h
    rcases hcase with ⟨rfl, more, has, hmore⟩ | ⟨rfl, has, rfl⟩
    · cases has
      obtain ⟨t, ht, rfl⟩ := form_of_argument hd (by simp) ha hafter
      obtain ⟨u, hu, rfl⟩ := ih hmore
      exact ⟨_, .cons ht hu, by rw [List.append_assoc, List.cons_append]⟩
    · cases has
      obtain ⟨t, ht, rfl⟩ := form_of_argument hd (by simp) ha hafter
      exact ⟨t, .one ht, rfl⟩

/-- Joined arguments are read as soon as each of them alone is. -/
theorem arguments_of_joined (hd : d.Legible) {form : Argument → List Char → Prop}
    (hform : ∀ {a t}, form a t → ReadsAs d a t) {as : List Argument} (h : Joined d form as t)
    (rest : List Char) : arguments d (t ++ d.argsClose :: rest) = .ok (as, rest) := by
  induction h with
  | one ha =>
    obtain ⟨after, hread, hafter⟩ := hform ha d.argsClose (by simp) rest
    exact arguments_last hd hread hafter
  | @cons a s more t ha hmore ih =>
    obtain ⟨after, hread, hafter⟩ :=
      hform ha d.separator (by simp) (t ++ d.argsClose :: rest)
    rw [List.append_assoc, List.cons_append]
    exact arguments_more hread hafter ih

theorem form_of_blanks {b : List Char} (hb : Blanks b) :
    Joined d (Argument.Form d) [.positional (String.ofList [])] b := by
  have hbare : Bare [d.separator, d.argsClose, '='] [] :=
    ⟨⟨nofun, nofun⟩, nofun, nofun⟩
  have hform := ValueForm.bare hb .nil hbare
  rw [List.append_nil, List.append_nil] at hform
  exact .one (.positional hform)

theorem bracketed_of_close {s rest : List Char} (h : trimLeft s = d.argsClose :: rest) :
    bracketed d s = .ok ([], rest) := by
  rw [bracketed, h]
  exact if_pos (beq_self_eq_true _)

theorem bracketed_of_no_close {s : List Char} (h : ∀ r, trimLeft s ≠ d.argsClose :: r) :
    bracketed d s = arguments d s := by
  rw [bracketed]
  split
  · rfl
  · next c r hr =>
    rw [if_neg]
    intro hc
    rw [beq_iff_eq.1 hc] at hr
    exact h r hr

theorem bracketed_bare (hd : d.Legible) {b : List Char} (hb : Blanks b) (rest : List Char) :
    bracketed d (b ++ d.argsClose :: rest) = .ok ([], rest) := by
  obtain ⟨-, hclose, -⟩ := collides_eq_false_iff.1 hd.argsClose
  apply bracketed_of_close
  rw [trimLeft_blanks hb, trimLeft_cons hclose]

/-- Blanks alone could be read as one empty argument too, so all that is left is which of the two
    readings comes first. -/
theorem bracketed_iff (hd : d.Unambiguous) {as : List Argument} :
    bracketed d s = .ok (as, rest) ↔ ∃ t, BracketForm d as t ∧ s = t ++ d.argsClose :: rest := by
  obtain ⟨-, hblank, -⟩ := collides_eq_false_iff.1 hd.argsClose
  constructor
  · intro h
    by_cases hclose : ∃ r, trimLeft s = d.argsClose :: r
    · obtain ⟨r, hr⟩ := hclose
      rw [bracketed_of_close hr] at h
      cases h
      obtain ⟨-, b, hb, hs⟩ := trimLeft_eq_cons_iff.1 hr
      exact ⟨b, .blank hb, hs⟩
    · rw [bracketed_of_no_close (not_exists.1 hclose)] at h
      obtain ⟨t, ht, rfl⟩ := form_of_arguments hd.toLegible h
      refine ⟨t, .given ?_ ht, rfl⟩
      intro hb
      exact hclose ⟨rest, trimLeft_eq_cons_iff.2 ⟨hblank, t, hb, rfl⟩⟩
  · rintro ⟨t, hform, rfl⟩
    cases hform with
    | blank hs => exact bracketed_bare hd.toLegible hs rest
    | given hs has =>
      have hread := arguments_of_joined hd.toLegible (readsAs_of_form hd) has rest
      rw [bracketed_of_no_close]
      · exact hread
      · -- else all in front of the bracket is blank, and the one argument is empty
        intro r hr
        obtain ⟨-, b, hb, hall⟩ := trimLeft_eq_cons_iff.1 hr
        have hempty :=
          arguments_of_joined hd.toLegible (readsAs_of_form hd) (form_of_blanks hb) r
        rw [← hall, hread] at hempty
        cases hempty
        exact hs (List.append_cancel_right hall ▸ hb)

end Body

/-! ### Bodies -/

namespace Call

variable {d : Delimiters} {call : Call} {body : List Char}

/-- What has been seen of a body that is read as a call. -/
theorem exists_of_ofBody (h : ofBody d body = .ok call) :
    ∃ name suffix, isIdentifier name = true ∧ trim body = name.toList ++ suffix ∧
      ((Blanks suffix ∧ call = ⟨name, []⟩) ∨
        ∃ b rest as after, Blanks b ∧ suffix = b ++ d.argsOpen :: rest ∧
          Body.bracketed d rest = .ok (as, after) ∧ Blanks after ∧ call = ⟨name, as⟩) := by
  generalize hname : String.ofList ((trim body).takeWhile isNameChar) = name
  have hchars : name.toList = (trim body).takeWhile isNameChar := by
    rw [← hname, String.toList_ofList]
  rw [ofBody] at h
  simp only [hname] at h
  split at h
  · cases h
  · next hne =>
    refine ⟨name, (trim body).dropWhile isNameChar, ?_, ?_, ?_⟩
    · rw [isIdentifier, Bool.and_eq_true, List.all_eq_true, hchars]
      exact ⟨by simpa using hne, fun c hc => List.mem_takeWhile_imp hc⟩
    · rw [hchars, List.takeWhile_append_dropWhile]
    · split at h
      · next hrest =>
        cases h
        exact .inl ⟨trimLeft_eq_nil_iff.1 hrest, rfl⟩
      · next c rest hrest =>
        obtain ⟨-, b, hb, hsuffix⟩ := trimLeft_eq_cons_iff.1 hrest
        split at h
        · cases h
        · next hopen =>
          obtain rfl : c = d.argsOpen := by simpa using hopen
          split at h
          · cases h
          · next as after hinner =>
            split at h
            · next hafter =>
              cases h
              have hblank := trim_eq_nil_iff.1 (List.isEmpty_iff.1 hafter)
              exact .inr ⟨b, rest, as, after, hb, hsuffix, hinner, hblank, rfl⟩
            · cases h

theorem form_of_ofBody (hd : d.Unambiguous) (h : ofBody d body = .ok call) :
    call.Form d body := by
  obtain ⟨b₁, b₂, h₁, h₂, -, hbody⟩ := exists_trim body
  obtain ⟨name, suffix, hid, hsplit, hcase⟩ := exists_of_ofBody h
  rw [hbody, hsplit]
  rcases hcase with ⟨hblank, rfl⟩ | ⟨b, rest, as, after, hb, rfl, hinner, hblank, rfl⟩
  · have hform := Form.alone (d := d) hid h₁ (hblank.append h₂)
    simpa only [List.append_assoc] using hform
  · obtain ⟨t, ht, rfl⟩ := (Body.bracketed_iff hd).1 hinner
    have hform := Form.bracketed hid h₁ hb (hblank.append h₂) ht
    simpa only [List.append_assoc, List.cons_append, List.nil_append] using hform

theorem not_isEmpty_of_isIdentifier {name : String} (h : isIdentifier name = true) :
    name.isEmpty = false := by
  rw [isIdentifier, Bool.and_eq_true] at h
  simpa using h.1

theorem identifier_then_bracket (hd : d.Legible) {identifier : String}
    (hid : isIdentifier identifier = true) {b : List Char} (hb : Blanks b) (rest : List Char) :
    (identifier.toList ++ (b ++ d.argsOpen :: rest)).takeWhile isNameChar = identifier.toList ∧
      trimLeft ((identifier.toList ++ (b ++ d.argsOpen :: rest)).dropWhile isNameChar) =
        d.argsOpen :: rest := by
  obtain ⟨hopen, hopen', -⟩ := Body.collides_eq_false_iff.1 hd.argsOpen
  obtain ⟨-, hchars⟩ := isIdentifier_iff.1 hid
  have hend : ∃ c t, b ++ d.argsOpen :: rest = c :: t ∧ isNameChar c = false := by
    cases b with
    | nil => exact ⟨d.argsOpen, rest, rfl, hopen⟩
    | cons c b => exact ⟨c, _, rfl, not_isNameChar_of_isBlank (hb c List.mem_cons_self)⟩
  obtain ⟨c, t, hend, hc⟩ := hend
  obtain ⟨htake, hdrop⟩ := takeWhile_append_cons hchars hc t
  constructor
  · rw [hend, htake]
  · rw [hend, hdrop, ← hend, trimLeft_blanks hb, trimLeft_cons hopen']

theorem trimmed_bracketed (hd : d.Legible) {identifier : String}
    (hid : isIdentifier identifier = true) (b inner : List Char) :
    Trimmed (identifier.toList ++ b ++ d.argsOpen :: (inner ++ [d.argsClose])) := by
  obtain ⟨-, hclose, -⟩ := Body.collides_eq_false_iff.1 hd.argsClose
  obtain ⟨c, cs, hcons, hc⟩ := exists_cons_of_isIdentifier hid
  constructor
  · intro a ha
    rw [hcons] at ha
    obtain rfl : c = a := Option.some.inj ha
    exact not_isBlank_of_isNameChar hc
  · intro a ha
    rw [← List.cons_append, ← List.append_assoc, List.getLast?_concat] at ha
    obtain rfl : d.argsClose = a := Option.some.inj ha
    exact hclose

/-- Between the outer brackets it is decided what becomes of a body that has them. -/
theorem ofBody_brackets (hd : d.Legible) {identifier : String} {b₁ b₂ b₃ : List Char}
    (hid : isIdentifier identifier = true) (h₁ : Blanks b₁) (h₂ : Blanks b₂) (h₃ : Blanks b₃)
    (inner : List Char) :
    ofBody d (b₁ ++ (identifier.toList ++ b₂ ++ d.argsOpen :: (inner ++ [d.argsClose])) ++ b₃) =
      match Body.bracketed d (inner ++ [d.argsClose]) with
      | .error e => .error e
      | .ok (as, after) =>
        if (trim after).isEmpty then .ok ⟨identifier, as⟩ else .error .trailingText := by
  have htrim := (trimmed_bracketed hd hid b₂ inner).trim h₁ h₃
  obtain ⟨htake, hdrop⟩ := identifier_then_bracket hd hid h₂ (inner ++ [d.argsClose])
  rw [ofBody, htrim, List.append_assoc, htake, String.ofList_toList]
  cases hread : Body.bracketed d (inner ++ [d.argsClose]) with
  | error e =>
    simp only [not_isEmpty_of_isIdentifier hid, Bool.false_eq_true, if_false, hdrop,
      bne_self_eq_false, hread]
  | ok p =>
    simp only [not_isEmpty_of_isIdentifier hid, Bool.false_eq_true, if_false, hdrop,
      bne_self_eq_false, hread]

theorem ofBody_of_bracketed (hd : d.Legible) {identifier : String} {as : List Argument}
    {b₁ b₂ b₃ inner : List Char} (hid : isIdentifier identifier = true) (h₁ : Blanks b₁)
    (h₂ : Blanks b₂) (h₃ : Blanks b₃)
    (hinner : Body.bracketed d (inner ++ [d.argsClose]) = .ok (as, [])) :
    ofBody d (b₁ ++ (identifier.toList ++ b₂ ++ d.argsOpen :: (inner ++ [d.argsClose])) ++ b₃) =
      .ok ⟨identifier, as⟩ := by
  rw [ofBody_brackets hd hid h₁ h₂ h₃, hinner]
  rfl

theorem ofBody_of_form (hd : d.Unambiguous) (h : call.Form d body) :
    ofBody d body = .ok call := by
  cases h with
  | @alone identifier b₁ b₂ hid h₁ h₂ =>
    obtain ⟨-, hchars⟩ := isIdentifier_iff.1 hid
    have htrim := (Body.bare_of_isIdentifier hd.toLegible hid).trimmed.trim h₁ h₂
    have hdrop : identifier.toList.dropWhile isNameChar = [] :=
      List.dropWhile_eq_nil_iff.2 hchars
    have htake : identifier.toList.takeWhile isNameChar = identifier.toList :=
      List.takeWhile_eq_self_iff.2 hchars
    rw [ofBody, htrim, htake, hdrop, String.ofList_toList]
    simp only [not_isEmpty_of_isIdentifier hid, Bool.false_eq_true, if_false]
    rfl
  | bracketed hid h₁ h₂ h₃ has =>
    exact ofBody_of_bracketed hd.toLegible hid h₁ h₂ h₃ ((Body.bracketed_iff hd).2 ⟨_, has, rfl⟩)

end Call

/-- **The reading accepts exactly the grammar.** If the punctuation is unambiguous, a body is read
    as a call if and only if it is a form of this call, and refused if it is a form of none. -/
theorem ofBody_accepts_forms {d : Delimiters} (hd : d.Unambiguous) (body : List Char) :
    (∀ call, Call.ofBody d body = .ok call ↔ call.Form d body) ∧
      ((∃ error, Call.ofBody d body = .error error) ↔ ∀ call : Call, ¬ call.Form d body) := by
  have hiff : ∀ call, Call.ofBody d body = .ok call ↔ call.Form d body :=
    fun call => ⟨Call.form_of_ofBody hd, Call.ofBody_of_form hd⟩
  refine ⟨hiff, ?_⟩
  constructor
  · rintro ⟨error, herror⟩ call hform
    rw [(hiff call).2 hform] at herror
    cases herror
  · intro hnone
    cases hread : Call.ofBody d body with
    | error error => exact ⟨error, rfl⟩
    | ok call => exact absurd ((hiff call).1 hread) (hnone call)

theorem Delimiters.unambiguous_standard : Delimiters.standard.Unambiguous :=
  ⟨legible_standard, by decide, by decide⟩

/-- Quotations and bare texts with punctuation in them, and an empty argument behind the last
    separator; and a quotation that something stands behind. -/
theorem ofBody_accepts_forms_standard :
    Delimiters.standard.Unambiguous ∧
      Call.Form .standard
        ⟨"Pick", [.positional "a (b", .positional "x\"y\\n,)", .named "n" "c=d", .positional ""]⟩
        " Pick ( a (b, \"x\\\"y\\n,)\" , n = c=d , ) ".toList ∧
      ∀ call : Call, ¬ call.Form .standard "Pick(\"a\" b)".toList := by
  have hd := Delimiters.unambiguous_standard
  refine ⟨hd, ?_, ?_⟩
  · refine ((ofBody_accepts_forms hd _).1 _).1 ?_
    decide +kernel
  · refine (ofBody_accepts_forms hd _).2.1 ⟨.unclosedArguments, ?_⟩
    decide +kernel

end Stencil
