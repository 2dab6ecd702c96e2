import Stencil.Proofs.Checking
import Stencil.Proofs.Spelling

/-!
# What valid punctuation is good for

In a valid configuration every call can be written with quoted values, and all its spellings are
read as this call (`ofBody_spelled`), whatever the punctuation is. With bare values this is not so.
The equals sign has a meaning of its own, which the check knows nothing about: as a separator it
makes a name of every value but the last, and as a closing bracket it is never seen behind a bare
value. These are the only exceptions (`ofBody_bareCall_iff`).
-/

namespace Stencil

open Text

/-! ### Quoted values -/

/-- **Every call can be written in valid punctuation.** Its values may be any texts. -/
theorem ofBody_spelled {c : Config} (hc : c.isValid = true) {call : Call}
    (hid : isIdentifier call.identifier = true)
    (hargs : ∀ a ∈ call.arguments, a.HasProperName) :
    call.Spells c.delimiters (call.quoted c.delimiters []) ∧
      ∀ body, call.Spells c.delimiters body → Call.ofBody c.delimiters body = .ok call := by
  obtain ⟨haccepted, -⟩ := Config.isValid_iff.1 hc
  refine ⟨Call.spells_quoted c.delimiters hid hargs .nil, ?_⟩
  intro body hbody
  exact Call.ofBody_of_spells haccepted.toLegible hbody

/-- Punctuation that means something else in quotes and behind names. -/
def Config.odd : Config :=
  { Config.standard with delimiters := { Delimiters.standard with
      argsClose := '='
      separator := '\\' } }

/-- A call whose values are full of this punctuation. -/
def Call.odd : Call where
  identifier := "Pick"
  arguments := [.positional "a=\\", .named "n" "\"="]

theorem ofBody_spelled_odd :
    Config.odd.isValid = true ∧ isIdentifier Call.odd.identifier = true ∧
      (∀ a ∈ Call.odd.arguments, a.HasProperName) ∧
      Call.ofBody Config.odd.delimiters "Pick(\"a=\\\\\"\\n=\"\\\"=\"=".toList =
        .ok Call.odd := by
  have hvalid : Config.odd.isValid = true := by decide
  have hid : isIdentifier Call.odd.identifier = true := by decide
  have hargs : ∀ a ∈ Call.odd.arguments, a.HasProperName :=
    List.forall_mem_cons.2 ⟨Argument.hasProperName_positional _,
      List.forall_mem_singleton.2 (Argument.hasProperName_named (by decide) _)⟩
  obtain ⟨hspells, hread⟩ := ofBody_spelled hvalid hid hargs
  exact ⟨hvalid, hid, hargs, hread _ hspells⟩

/-! ### Bare values -/

/-- A call with bare values written out; without values it has no brackets. -/
def Delimiters.bareCall (d : Delimiters) (identifier : String) (values : List String) :
    List Char :=
  if values = [] then identifier.toList
  else identifier.toList ++ d.argsOpen ::
    ([d.separator].intercalate (values.map String.toList) ++ [d.argsClose])

namespace Body

variable {d : Delimiters} {value : String} {values : List String} {rest after : List Char}
  {as : List Argument}

/-- What stands behind the first of several values. -/
theorem bareValues_cons (d : Delimiters) (value : String) (values : List String)
    (rest : List Char) :
    [d.separator].intercalate ((value :: values).map String.toList) ++ d.argsClose :: rest =
      value.toList ++
        if values = [] then d.argsClose :: rest
        else d.separator ::
          ([d.separator].intercalate (values.map String.toList) ++ d.argsClose :: rest) := by
  cases values with
  | nil => simp
  | cons value' values => simp [List.intercalate_cons_cons]

theorem argument_bareValue (hd : d.Legible) (hvalue : isIdentifier value = true) {c : Char}
    (hc : c ∈ [d.separator, d.argsClose]) (hequals : c ≠ '=') (rest : List Char) :
    argument d (value.toList ++ c :: rest) = .ok (.positional value, c :: rest) := by
  have hread := argument_of_bare_value hd hc hequals .nil .nil (bare_of_isIdentifier hd hvalue) rest
  rw [List.nil_append, List.append_nil, String.ofList_toList] at hread
  exact hread

theorem arguments_bareValues (hd : d.Legible) (hne : values ≠ [])
    (hvalues : ∀ value ∈ values, isIdentifier value = true) (hclose : d.argsClose ≠ '=')
    (hseparator : d.separator = '=' → values.length = 1) (rest : List Char) :
    arguments d ([d.separator].intercalate (values.map String.toList) ++ d.argsClose :: rest) =
      .ok (values.map .positional, rest) := by
  obtain ⟨-, hblank, -⟩ := collides_eq_false_iff.1 hd.argsClose
  obtain ⟨-, hblank', -⟩ := collides_eq_false_iff.1 hd.separator
  induction values with
  | nil => exact absurd rfl hne
  | cons value values ih =>
    obtain ⟨hvalue, hvalues⟩ := List.forall_mem_cons.1 hvalues
    rw [bareValues_cons]
    by_cases hmore : values = []
    · rw [if_pos hmore, hmore]
      exact arguments_last hd (argument_bareValue hd hvalue (by simp) hclose rest)
        (trimLeft_cons hblank rest)
    · have hequals : d.separator ≠ '=' := by
        intro h
        have hlength := hseparator h
        simp [hmore] at hlength
      rw [if_neg hmore]
      exact arguments_more (argument_bareValue hd hvalue (by simp) hequals _)
        (trimLeft_cons hblank' _) (ih hmore hvalues fun h => absurd h hequals)

theorem argument_nameAtEnd (hd : d.Legible) (hvalue : isIdentifier value = true) :
    argument d (value.toList ++ ['=']) = .ok (.named value "", []) := by
  have hs : value.toList ++ ['='] = [] ++ value.toList ++ [] ++ '=' :: [] := by simp
  obtain ⟨hfirst, htrim, hdrop⟩ := (bare_iff (stops_token hd)).2
    ⟨by simp, [], [], .nil, .nil, bare_of_isIdentifier hd hvalue, hs⟩
  rw [argument_of_bare hfirst, htrim, hdrop, String.ofList_toList]
  simp only [hvalue, if_true]
  rfl

/-- Where the closing bracket is an equals sign, the last value becomes a name. -/
theorem not_arguments_bareValues (hd : d.Legible) (hne : values ≠ [])
    (hvalues : ∀ value ∈ values, isIdentifier value = true) (hclose : d.argsClose = '=') :
    arguments d ([d.separator].intercalate (values.map String.toList) ++ [d.argsClose]) ≠
      .ok (as, after) := by
  intro h
  have hequals : d.separator ≠ '=' := hclose ▸ hd.distinct
  induction values generalizing as with
  | nil => exact hne rfl
  | cons value values ih =>
    obtain ⟨hvalue, hvalues⟩ := List.forall_mem_cons.1 hvalues
    obtain ⟨a, behind, c, t, ha, hbehind, hcase⟩ := exists_of_arguments h
    rw [bareValues_cons] at ha
    by_cases hmore : values = []
    · rw [if_pos hmore, hclose, argument_nameAtEnd hd hvalue] at ha
      cases ha
      cases hbehind
    · rw [if_neg hmore, argument_bareValue hd hvalue (by simp) hequals] at ha
      cases ha
      obtain ⟨-, hblank', -⟩ := collides_eq_false_iff.1 hd.separator
      rw [trimLeft_cons hblank'] at hbehind
      cases hbehind
      rcases hcase with ⟨-, more, -, hread⟩ | ⟨hsame, -⟩
      · exact ih hmore hvalues hread
      · exact hd.distinct hsame

/-- Where the separator is an equals sign, the first of two values becomes the name of the other. -/
theorem exists_named_of_arguments (hd : d.Legible) (hseparator : d.separator = '=')
    {value' : String} (hvalue : isIdentifier value = true) (hvalue' : isIdentifier value' = true)
    (h : arguments d ([d.separator].intercalate ((value :: value' :: values).map String.toList) ++
      d.argsClose :: rest) = .ok (as, after)) :
    ∃ more, as = .named value value' :: more := by
  have hbare := bare_of_isIdentifier hd hvalue'
  have hform : ValueForm [d.separator, d.argsClose] value'.toList ([] ++ value'.toList ++ []) :=
    .bare .nil .nil ⟨hbare.trimmed, hbare.quote,
      fun c hc hstop => hbare.disjoint c hc (List.mem_append_left ['='] hstop)⟩
  have hbehind : ∃ c t, c ∈ [d.separator, d.argsClose] ∧
      [d.separator].intercalate ((value' :: values).map String.toList) ++ d.argsClose :: rest =
        value'.toList ++ c :: t := by
    rw [bareValues_cons]
    split
    · exact ⟨d.argsClose, rest, by simp, rfl⟩
    · exact ⟨d.separator, _, by simp, rfl⟩
  obtain ⟨c, t, hc, hbehind⟩ := hbehind
  obtain ⟨after', hread, -⟩ := argument_of_name hd hc hvalue .nil .nil hform t
  have hread' : argument d ([d.separator].intercalate ((value :: value' :: values).map
      String.toList) ++ d.argsClose :: rest) = .ok (.named value value', after') := by
    rw [bareValues_cons, if_neg (List.cons_ne_nil value' values), hbehind, hseparator]
    simpa using hread
  obtain ⟨a, behind, c', t', ha, -, hcase⟩ := exists_of_arguments h
  rw [hread'] at ha
  cases ha
  rcases hcase with ⟨-, more, has, -⟩ | ⟨-, has, -⟩
  · exact ⟨more, has⟩
  · exact ⟨[], has⟩

theorem length_of_arguments (hd : d.Legible) (hseparator : d.separator = '=') (hne : values ≠ [])
    (hvalues : ∀ value ∈ values, isIdentifier value = true)
    (h : arguments d ([d.separator].intercalate (values.map String.toList) ++
      d.argsClose :: rest) = .ok (values.map .positional, after)) : values.length = 1 := by
  match values with
  | [] => exact absurd rfl hne
  | [value] => rfl
  | value :: value' :: values =>
    obtain ⟨more, has⟩ := exists_named_of_arguments hd hseparator (hvalues value (by simp))
      (hvalues value' (by simp)) h
    cases has

theorem bracketed_bareValues (hd : d.Legible) (hne : values ≠ [])
    (hvalues : ∀ value ∈ values, isIdentifier value = true) (rest : List Char) :
    bracketed d ([d.separator].intercalate (values.map String.toList) ++ d.argsClose :: rest) =
      arguments d
        ([d.separator].intercalate (values.map String.toList) ++ d.argsClose :: rest) := by
  obtain ⟨hclose, -, -⟩ := collides_eq_false_iff.1 hd.argsClose
  obtain ⟨value, values, rfl⟩ := List.exists_cons_of_ne_nil hne
  obtain ⟨c, cs, hcons, hc⟩ := exists_cons_of_isIdentifier (hvalues value List.mem_cons_self)
  apply bracketed_of_no_close
  intro r hr
  rw [bareValues_cons, hcons, List.cons_append, trimLeft_cons (not_isBlank_of_isNameChar hc)] at hr
  rw [(List.cons.inj hr).1, hclose] at hc
  cases hc

end Body

/-- **When bare values are read as they are written.** -/
theorem ofBody_bareCall_iff {c : Config} (hc : c.isValid = true) {identifier : String}
    {values : List String} (hid : isIdentifier identifier = true) (hne : values ≠ [])
    (hvalues : ∀ value ∈ values, isIdentifier value = true) :
    Call.ofBody c.delimiters (c.delimiters.bareCall identifier values) =
        .ok ⟨identifier, values.map .positional⟩ ↔
      c.delimiters.argsClose ≠ '=' ∧ (c.delimiters.separator = '=' → values.length = 1) := by
  obtain ⟨haccepted, -⟩ := Config.isValid_iff.1 hc
  have hd := haccepted.toLegible
  generalize c.delimiters = d at hd
  have hread := Call.ofBody_brackets hd hid .nil .nil .nil
    ([d.separator].intercalate (values.map String.toList))
  rw [List.nil_append, List.append_nil, List.append_nil,
    Body.bracketed_bareValues hd hne hvalues] at hread
  rw [Delimiters.bareCall, if_neg hne, hread]
  constructor
  · intro h
    split at h
    · cases h
    · next as after harguments =>
      split at h
      · simp only [Except.ok.injEq, Call.mk.injEq, true_and] at h
        rw [h] at harguments
        exact ⟨fun hclose => Body.not_arguments_bareValues hd hne hvalues hclose harguments,
          fun hseparator => Body.length_of_arguments hd hseparator hne hvalues harguments⟩
      · cases h
  · rintro ⟨hclose, hseparator⟩
    rw [Body.arguments_bareValues hd hne hvalues hclose hseparator]
    rfl

/-- Valid punctuation in which equals signs separate. -/
def Config.equated : Config :=
  { Config.standard with delimiters := { Delimiters.standard with separator := '=' } }

theorem ofBody_bareCall_equated :
    Config.equated.isValid = true ∧ isIdentifier "Pick" = true ∧ ["a"] ≠ [] ∧
      (∀ value ∈ ["a"], isIdentifier value = true) ∧
      Call.ofBody Config.equated.delimiters "Pick(a)".toList = .ok ⟨"Pick", [.positional "a"]⟩ := by
  have hvalid : Config.equated.isValid = true := by decide
  have hid : isIdentifier "Pick" = true := by decide
  have hne : ["a"] ≠ [] := by decide
  have hvalues : ∀ value ∈ ["a"], isIdentifier value = true := by decide
  exact ⟨hvalid, hid, hne, hvalues,
    (ofBody_bareCall_iff hvalid hid hne hvalues).2 ⟨by decide, fun _ => rfl⟩⟩

/-- Two values are read as one with a name. -/
theorem ofBody_bareCall_equated_ne :
    Config.equated.isValid = true ∧
      Call.ofBody Config.equated.delimiters
          (Config.equated.delimiters.bareCall "Pick" ["a", "b"]) ≠
        .ok ⟨"Pick", ["a", "b"].map .positional⟩ := by
  decide +kernel

end Stencil
