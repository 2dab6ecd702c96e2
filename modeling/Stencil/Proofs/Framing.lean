import Stencil.Proofs.Delivery
import Stencil.Proofs.Punctuation

/-!
# Bodies between their delimiters

A body is found between its delimiters exactly if no opening delimiter lies in it and the closing
one taken together, and no closing delimiter in both but at the end (`Delimiters.frames_iff`).

That the check finds nothing does not ensure this, not even for calls with bare values in which
there is no delimiter. What is missing is `Delimiters.Clear`. It is enough for opening delimiters
without letters, digits and underscores, and for them no less will do (`frames_iff_of_quiet`).

The proof looks at what can lie in such a call. Of two neighbouring characters one belongs to a
name (`Sparse`), so all that an opening delimiter can share with a call is one character of its
punctuation. A closing delimiter holds no separator and no closing bracket, so it lies in a word,
which is excluded, or around the opening bracket.
-/

namespace Stencil

open Text

namespace Delimiters

variable {d : Delimiters} {limit : Nat} {body : List Char}

/-- The template of a body between its delimiters is cut into this one placeholder. -/
def Frames (d : Delimiters) (limit : Nat) (body : List Char) : Prop :=
  segments d limit (d.opening.toList ++ body ++ d.closing.toList) =
    [.placeholder (d.opening.toList ++ body ++ d.closing.toList) body]

theorem leaves_of_frames (hopening : d.opening.toList ≠ []) (h : d.Frames limit body) :
    ∃ raw s, Scan.Leaves d limit (body ++ d.closing.toList) (.placeholder raw body) s ∧
      Scan.segments d limit s = [] := by
  have hfirst : d.findOpening (d.opening.toList ++ body ++ d.closing.toList) =
      some ([], body ++ d.closing.toList) := by
    rw [List.append_assoc]
    exact findOpening_eq_some_iff.2 ⟨hopening, .front _ _⟩
  have hcut : Scan.inText d limit (d.opening.toList ++ body ++ d.closing.toList) =
      Scan.afterOpening d limit (body ++ d.closing.toList) := by
    rw [Scan.inText, hfirst]
    simp only [d.beforeEscape_nil, List.isEmpty_nil, if_true]
  change Scan.segments d limit (.text _) = _ at h
  rw [Scan.segments_text d limit (by simp [hopening]), hcut] at h
  obtain ⟨hsegment, hrest⟩ := List.cons.inj h
  have hleaves := Scan.leaves_afterOpening d limit (body ++ d.closing.toList)
  rw [hsegment] at hleaves
  exact ⟨_, _, hleaves, hrest⟩

/-- **When a body is found between its delimiters.** -/
theorem frames_iff (hopening : d.opening.toList ≠ []) (hclosing : d.closing.toList ≠ [])
    (hlimit : byteLength body ≤ limit) :
    d.Frames limit body ↔
      ¬ d.opening.toList <:+: body ++ d.closing.toList ∧
        ¬ d.closing.toList <:+: (body ++ d.closing.toList).dropLast := by
  constructor
  · intro h
    obtain ⟨raw, s, hleaves, hrest⟩ := leaves_of_frames hopening h
    have hdone := Scan.flatMap_source_segments d limit s
    rw [hrest] at hdone
    cases hleaves with
    | closed hclose hle =>
      -- nothing is left behind the placeholder, so the window was everything
      obtain ⟨rfl, hnext⟩ := List.append_eq_nil_iff.1 hdone.symm
      have hwindow := d.window_append (body ++ d.closing.toList)
      have hopen := d.not_infix_window hopening (body ++ d.closing.toList)
      rw [hnext, List.append_nil] at hwindow
      rw [hwindow] at hopen hclose
      exact ⟨hopen, (findClosing_eq_some_iff.1 hclose).not_infix_dropLast hclosing⟩
  · rintro ⟨hopen, hclose⟩
    rw [Frames, List.append_assoc]
    have hlone := segments_lone hopening hopen (.of_dropLast hclose) hlimit
    rw [List.append_assoc] at hlone
    exact hlone

end Delimiters

/-! ### Words -/

/-- A word of a call, in which no delimiter lies. -/
structure Delimiters.Word (d : Delimiters) (word : String) : Prop where
  name : isIdentifier word = true
  opening : ¬ d.opening.toList <:+: word.toList
  closing : ¬ d.closing.toList <:+: word.toList

/-- Of two neighbouring characters, one belongs to a name. -/
def Sparse (s : List Char) : Prop :=
  s.IsChain fun a b => isNameChar a = true ∨ isNameChar b = true

namespace Sparse

variable {s t : List Char} {c : Char}

theorem of_names (h : ∀ a ∈ s, isNameChar a = true) : Sparse s := by
  induction s with
  | nil => exact .nil
  | cons a s ih =>
    obtain ⟨ha, hs⟩ := List.forall_mem_cons.1 h
    exact (ih hs).cons fun b _ => .inl ha

theorem names_append (hs : ∀ a ∈ s, isNameChar a = true) (ht : Sparse t) : Sparse (s ++ t) := by
  refine (of_names hs).append ht ?_
  intro a ha b _
  exact .inl (hs a (List.mem_of_mem_getLast? ha))

theorem cons_of_first (ht : Sparse t) (hfirst : ∀ a ∈ t.head?, isNameChar a = true) :
    Sparse (c :: t) :=
  ht.cons fun a ha => .inr (hfirst a ha)

/-- Without characters of names, there is room for one character. -/
theorem eq_singleton (hs : Sparse s) (hin : t <:+: s) (hne : t ≠ [])
    (hno : ∀ a ∈ t, isNameChar a = false) : ∃ a, t = [a] := by
  have ht : Sparse t := List.IsChain.infix hs hin
  match t, hne with
  | [a], _ => exact ⟨a, rfl⟩
  | a :: b :: t, _ =>
    have hpair := List.IsChain.rel ht
    simp [hno] at hpair

end Sparse

/-! ### What lies in a call with bare values -/

namespace Delimiters

variable {d : Delimiters} {identifier : String} {values : List String} {u : List Char} {c : Char}

/-- Values with separators between them and a closing bracket behind them, from the last value
    to the first. -/
theorem bareValues_induction {motive : List Char → Prop} {p : String → Prop}
    (last : ∀ value, p value → motive (value.toList ++ [d.argsClose]))
    (more : ∀ value rest, p value → motive rest → motive (value.toList ++ d.separator :: rest))
    (hne : values ≠ []) (hvalues : ∀ value ∈ values, p value) :
    motive ([d.separator].intercalate (values.map String.toList) ++ [d.argsClose]) := by
  induction values with
  | nil => exact absurd rfl hne
  | cons value values ih =>
    obtain ⟨hvalue, hvalues⟩ := List.forall_mem_cons.1 hvalues
    rw [Body.bareValues_cons]
    by_cases hmore : values = []
    · rw [if_pos hmore]
      exact last value hvalue
    · rw [if_neg hmore]
      exact more value _ hvalue (ih hmore hvalues)

theorem bareCall_of_ne_nil (hne : values ≠ []) :
    d.bareCall identifier values = identifier.toList ++ d.argsOpen ::
      ([d.separator].intercalate (values.map String.toList) ++ [d.argsClose]) := if_neg hne

theorem bareCall_nil : d.bareCall identifier [] = identifier.toList := if_pos rfl

theorem head?_name_append {name : String} (h : isIdentifier name = true) (t : List Char) :
    ∀ a ∈ (name.toList ++ t).head?, isNameChar a = true := by
  obtain ⟨c, cs, hcons, hc⟩ := exists_cons_of_isIdentifier h
  intro a ha
  rw [hcons] at ha
  exact Option.some.inj ha ▸ hc

theorem sparse_bareCall (hid : isIdentifier identifier = true)
    (hvalues : ∀ value ∈ values, isIdentifier value = true) :
    Sparse (d.bareCall identifier values) := by
  have hname : ∀ name : String, isIdentifier name = true → ∀ a ∈ name.toList, isNameChar a = true :=
    fun name h => (isIdentifier_iff.1 h).2
  by_cases hne : values = []
  · rw [hne, bareCall_nil]
    exact .of_names (hname identifier hid)
  · have hinner := bareValues_induction (d := d)
      (motive := fun t => Sparse t ∧ ∀ a ∈ t.head?, isNameChar a = true)
      (fun value h => ⟨.names_append (hname value h) (.singleton _), head?_name_append h _⟩)
      (fun value rest h hrest =>
        ⟨.names_append (hname value h) (hrest.1.cons_of_first hrest.2), head?_name_append h _⟩)
      hne hvalues
    rw [bareCall_of_ne_nil hne]
    exact .names_append (hname identifier hid) (hinner.1.cons_of_first hinner.2)

theorem mem_bareValues (hne : values ≠ []) (hvalues : ∀ value ∈ values, isIdentifier value = true)
    (hc : c ∈ [d.separator].intercalate (values.map String.toList) ++ [d.argsClose]) :
    isNameChar c = true ∨ c = d.separator ∨ c = d.argsClose := by
  revert hc c
  refine bareValues_induction (motive := fun t => ∀ {c}, c ∈ t →
    isNameChar c = true ∨ c = d.separator ∨ c = d.argsClose) ?_ ?_ hne hvalues
  · intro value hvalue c hc
    rcases List.mem_append.1 hc with hc | hc
    · exact .inl ((isIdentifier_iff.1 hvalue).2 c hc)
    · exact .inr (.inr (List.mem_singleton.1 hc))
  · intro value rest hvalue hrest c hc
    rcases List.mem_append.1 hc with hc | hc
    · exact .inl ((isIdentifier_iff.1 hvalue).2 c hc)
    · rcases List.mem_cons.1 hc with rfl | hc
      · exact .inr (.inl rfl)
      · exact hrest hc

theorem mem_bareCall (hid : isIdentifier identifier = true)
    (hvalues : ∀ value ∈ values, isIdentifier value = true)
    (hc : c ∈ d.bareCall identifier values) :
    isNameChar c = true ∨ c = d.argsOpen ∨ c = d.separator ∨ c = d.argsClose := by
  by_cases hne : values = []
  · rw [hne, bareCall_nil] at hc
    exact .inl ((isIdentifier_iff.1 hid).2 c hc)
  · rw [bareCall_of_ne_nil hne] at hc
    rcases List.mem_append.1 hc with hc | hc
    · exact .inl ((isIdentifier_iff.1 hid).2 c hc)
    · rcases List.mem_cons.1 hc with rfl | hc
      · exact .inr (.inl rfl)
      · rcases mem_bareValues hne hvalues hc with hname | hpunctuation
        · exact .inl hname
        · exact .inr (.inr hpunctuation)

theorem eq_argsClose_of_suffix (hne : values ≠ [])
    (h : u ++ [c] <:+ d.bareCall identifier values) : c = d.argsClose := by
  rw [bareCall_of_ne_nil hne, ← List.cons_append, ← List.append_assoc, List.suffix_concat_iff] at h
  rcases h with h | ⟨t, ht, -⟩
  · exact absurd h (by simp)
  · simpa using congrArg List.getLast? ht

theorem Quiet.not_infix_bareValues (hd : d.Quiet) (hne : values ≠ [])
    (hvalues : ∀ value ∈ values, d.Word value) :
    ¬ d.closing.toList <:+:
      [d.separator].intercalate (values.map String.toList) ++ [d.argsClose] := by
  refine bareValues_induction (motive := fun t => ¬ d.closing.toList <:+: t) ?_ ?_ hne hvalues
  · intro value hvalue h
    rcases infix_append_cons hd.argsClose_notMem h with h | h
    · exact hvalue.closing h
    · exact hd.closing (List.infix_nil.1 h)
  · intro value rest hvalue hrest h
    rcases infix_append_cons hd.separator_notMem h with h | h
    · exact hvalue.closing h
    · exact hrest h

/-! ### Delimiters that keep clear of calls -/

/-- What has to hold besides, in order that calls with bare values are found. -/
structure Clear (d : Delimiters) : Prop where
  apart : ¬ d.opening.toList <:+: d.closing.toList
  opening_ne_argsOpen : d.opening.toList ≠ [d.argsOpen]
  opening_ne_separator : d.opening.toList ≠ [d.separator]
  opening_ne_argsClose : ∀ t, t <+: d.closing.toList → d.opening.toList ≠ d.argsClose :: t
  closing_ne_name : ∀ u t, (∀ c ∈ u, isNameChar c = true) → u ≠ [] → t ≠ [] →
    t <+: d.closing.toList → d.closing.toList ≠ u ++ t
  closing_ne_bracket : ∀ u t, (∀ c ∈ u ++ t, isNameChar c = true) →
    d.closing.toList ≠ u ++ d.argsOpen :: t

/-- Delimiters clear of each other, of the punctuation and, at the end, of names. -/
theorem Clear.of_disjoint (hne : d.opening.toList ≠ [])
    (hopening : ∀ c ∈ d.opening.toList, c ∉ d.closing.toList ∧ c ≠ d.argsOpen ∧
      c ≠ d.separator ∧ c ≠ d.argsClose)
    (hclosing : ∀ c ∈ d.closing.toList, isNameChar c = false ∧ c ≠ d.argsOpen) : d.Clear := by
  obtain ⟨c, cs, hcons⟩ := List.exists_cons_of_ne_nil hne
  rw [hcons] at hopening
  obtain ⟨hapart, hargsOpen, hseparator, hargsClose⟩ := hopening c List.mem_cons_self
  constructor
  · intro hin
    exact hapart (hin.subset (hcons ▸ List.mem_cons_self))
  · intro hsame
    exact hargsOpen (List.cons.inj (hcons.symm.trans hsame)).1
  · intro hsame
    exact hseparator (List.cons.inj (hcons.symm.trans hsame)).1
  · intro t _ hsame
    exact hargsClose (List.cons.inj (hcons.symm.trans hsame)).1
  · intro u t hnames hu _ _ hsplit
    obtain ⟨a, u, rfl⟩ := List.exists_cons_of_ne_nil hu
    have hname := hnames a List.mem_cons_self
    rw [(hclosing a (hsplit ▸ List.mem_cons_self)).1] at hname
    cases hname
  · intro u t _ hsplit
    exact (hclosing d.argsOpen (by simp [hsplit])).2 rfl

theorem Clear.not_infix_opening (h : d.Clear)
    (hopening : ∀ c ∈ d.opening.toList, isNameChar c = false)
    (hid : isIdentifier identifier = true)
    (hvalues : ∀ value ∈ values, isIdentifier value = true) :
    ¬ d.opening.toList <:+: d.bareCall identifier values ++ d.closing.toList := by
  have hsparse := sparse_bareCall (d := d) hid hvalues
  have hne : d.opening.toList ≠ [] := fun hnil => h.apart (hnil ▸ List.nil_infix)
  intro hin
  rcases List.infix_append_iff.1 hin with hbody | hclosing | ⟨u, t, hsplit, hu, ht⟩
  · obtain ⟨c, hc⟩ := hsparse.eq_singleton hbody hne hopening
    have hmem : c ∈ d.opening.toList := by rw [hc]; exact List.mem_cons_self
    rcases mem_bareCall hid hvalues (hbody.subset hmem) with hname | rfl | rfl | rfl
    · rw [hopening c hmem] at hname
      cases hname
    · exact h.opening_ne_argsOpen hc
    · exact h.opening_ne_separator hc
    · exact h.opening_ne_argsClose [] List.nil_prefix hc
  · exact h.apart hclosing
  · by_cases hnil : u = []
    · rw [hnil, List.nil_append] at hsplit
      exact h.apart (hsplit ▸ ht.isInfix)
    · have hno : ∀ c ∈ u, isNameChar c = false := by
        intro c hc
        exact hopening c (by rw [hsplit]; exact List.mem_append_left t hc)
      obtain ⟨c, rfl⟩ := hsparse.eq_singleton hu.isInfix hnil hno
      by_cases hvalue : values = []
      · rw [hvalue, bareCall_nil] at hu
        have hname := (isIdentifier_iff.1 hid).2 c (hu.subset List.mem_cons_self)
        rw [hno c List.mem_cons_self] at hname
        cases hname
      · obtain rfl := eq_argsClose_of_suffix (u := []) hvalue hu
        exact h.opening_ne_argsClose t ht hsplit

theorem Clear.not_infix_bareCall (h : d.Clear) (hd : d.Quiet) (hid : d.Word identifier)
    (hvalues : ∀ value ∈ values, d.Word value) :
    ¬ d.closing.toList <:+: d.bareCall identifier values := by
  by_cases hne : values = []
  · rw [hne, bareCall_nil]
    exact hid.closing
  have hnames : ∀ c ∈ identifier.toList, isNameChar c = true := (isIdentifier_iff.1 hid.name).2
  obtain ⟨hopen, -, -⟩ := Body.collides_eq_false_iff.1 hd.argsOpen
  have hinner : ∀ c ∈ [d.separator].intercalate (values.map String.toList) ++ [d.argsClose],
      isNameChar c = true ∨ c = d.separator ∨ c = d.argsClose :=
    fun c hc => mem_bareValues hne (fun value hvalue => (hvalues value hvalue).name) hc
  rw [bareCall_of_ne_nil hne]
  intro hin
  by_cases hmem : d.argsOpen ∈ d.closing.toList
  · -- the only opening bracket of the call is the one behind the identifier
    have hl : d.argsOpen ∉ identifier.toList := by
      intro hname
      rw [hnames _ hname] at hopen
      cases hopen
    have hr : d.argsOpen ∉ [d.separator].intercalate (values.map String.toList) ++
        [d.argsClose] := by
      intro hbracket
      rcases hinner _ hbracket with hname | hseparator | hclose
      · rw [hname] at hopen
        cases hopen
      · exact hd.separator_ne hseparator.symm
      · exact hd.brackets hclose
    obtain ⟨u, t, hsplit⟩ := List.append_of_mem hmem
    rw [hsplit] at hin
    obtain ⟨hu, ht⟩ := suffix_and_prefix_of_infix hl hr hin
    refine h.closing_ne_bracket u t ?_ hsplit
    intro c hc
    rcases List.mem_append.1 hc with hc | hc
    · exact hnames c (hu.subset hc)
    · have hclosing : c ∈ d.closing.toList := by
        rw [hsplit]
        exact List.mem_append_right u (List.mem_cons_of_mem _ hc)
      rcases hinner c (ht.subset hc) with hname | rfl | rfl
      · exact hname
      · exact absurd hclosing hd.separator_notMem
      · exact absurd hclosing hd.argsClose_notMem
  · rcases infix_append_cons hmem hin with hin | hin
    · exact hid.closing hin
    · exact hd.not_infix_bareValues hne hvalues hin

theorem Clear.not_infix_closing (h : d.Clear) (hd : d.Quiet) (hid : d.Word identifier)
    (hvalues : ∀ value ∈ values, d.Word value) :
    ¬ d.closing.toList <:+: (d.bareCall identifier values ++ d.closing.toList).dropLast := by
  rw [List.dropLast_append_of_ne_nil hd.closing]
  intro hin
  rcases List.infix_append_iff.1 hin with hbody | hself | ⟨u, t, hsplit, hu, ht⟩
  · exact h.not_infix_bareCall hd hid hvalues hbody
  · have hlength := hself.length_le
    have hpos := List.length_pos_iff.2 hd.closing
    rw [List.length_dropLast] at hlength
    omega
  · have ht' : t <+: d.closing.toList := ht.trans (List.dropLast_prefix _)
    have htlength := ht.length_le
    rw [List.length_dropLast] at htlength
    have hlength := congrArg List.length hsplit
    rw [List.length_append] at hlength
    have hune : u ≠ [] := by
      rintro rfl
      have hpos := List.length_pos_iff.2 hd.closing
      simp only [List.length_nil] at hlength
      omega
    have htne : t ≠ [] := by
      rintro rfl
      rw [List.append_nil] at hsplit
      exact h.not_infix_bareCall hd hid hvalues (hsplit ▸ hu.isInfix)
    by_cases hne : values = []
    · rw [hne, bareCall_nil] at hu
      exact h.closing_ne_name u t (fun c hc => (isIdentifier_iff.1 hid.name).2 c (hu.subset hc))
        hune htne ht' hsplit
    · obtain ⟨u, c, rfl⟩ := (List.eq_nil_or_concat' u).resolve_left hune
      obtain rfl := eq_argsClose_of_suffix hne hu
      exact hd.argsClose_notMem (hsplit ▸ by simp)

/-! ### Nothing less will do -/

theorem word_ofList {s : List Char} (hd : d.Quiet)
    (hopening : ∀ c ∈ d.opening.toList, isNameChar c = false) (hne : s ≠ [])
    (hnames : ∀ c ∈ s, isNameChar c = true) (hclosing : ¬ d.closing.toList <:+: s) :
    d.Word (String.ofList s) := by
  refine ⟨isIdentifier_iff.2 ?_, ?_, ?_⟩
  · rw [String.toList_ofList]
    exact ⟨hne, hnames⟩
  · rw [String.toList_ofList]
    intro h
    obtain ⟨c, cs, hcons⟩ := List.exists_cons_of_ne_nil hd.opening
    have hmem : c ∈ d.opening.toList := hcons ▸ List.mem_cons_self
    have hname := hnames c (h.subset hmem)
    rw [hopening c hmem] at hname
    cases hname
  · rwa [String.toList_ofList]

theorem exists_letter (hd : d.Quiet) (hopening : ∀ c ∈ d.opening.toList, isNameChar c = false) :
    ∃ c, isNameChar c = true ∧ d.Word (String.ofList [c]) := by
  have hletter : ∀ c, isNameChar c = true → d.closing.toList ≠ [c] →
      ∃ c, isNameChar c = true ∧ d.Word (String.ofList [c]) := by
    intro c hc hne
    refine ⟨c, hc, word_ofList hd hopening (by simp) (List.forall_mem_singleton.2 hc) ?_⟩
    rw [List.infix_singleton_iff]
    exact not_or.2 ⟨hd.closing, hne⟩
  by_cases h : d.closing.toList = ['A']
  · exact hletter 'B' (by decide) (by rw [h]; decide)
  · exact hletter 'A' (by decide) h

/-- A closing delimiter around an opening bracket lies in a call with one value. -/
theorem infix_bareCall_of_bracket {u t : List Char}
    (hsplit : d.closing.toList = u ++ d.argsOpen :: t) (c : Char) :
    d.closing.toList <:+: d.bareCall (String.ofList (c :: u)) [String.ofList (t ++ [c])] := by
  refine ⟨[c], [c, d.argsClose], ?_⟩
  rw [hsplit]
  simp [bareCall]

theorem clear_of_frames (hd : d.Quiet) (hopening : ∀ c ∈ d.opening.toList, isNameChar c = false)
    (h : ∀ identifier values, d.Word identifier → (∀ value ∈ values, d.Word value) →
      ¬ d.opening.toList <:+: d.bareCall identifier values ++ d.closing.toList ∧
        ¬ d.closing.toList <:+: (d.bareCall identifier values ++ d.closing.toList).dropLast) :
    d.Clear := by
  obtain ⟨c, hc, hletter⟩ := exists_letter hd hopening
  have hone : d.bareCall (String.ofList [c]) [String.ofList [c]] =
      [c, d.argsOpen, c, d.argsClose] := by simp [bareCall]
  have htwo : d.bareCall (String.ofList [c]) [String.ofList [c], String.ofList [c]] =
      [c, d.argsOpen, c, d.separator, c, d.argsClose] := by
    simp [bareCall, List.intercalate_cons_cons]
  have hopen₁ := (h _ [String.ofList [c]] hletter (List.forall_mem_singleton.2 hletter)).1
  have hopen₂ := (h _ [String.ofList [c], String.ofList [c]] hletter
    (List.forall_mem_cons.2 ⟨hletter, List.forall_mem_singleton.2 hletter⟩)).1
  rw [hone] at hopen₁
  rw [htwo] at hopen₂
  constructor
  · intro hin
    exact (h _ [] hletter (List.forall_mem_nil _)).1 (List.IsInfix.trans hin
      (List.suffix_append _ _).isInfix)
  · intro hsame
    exact hopen₁ ⟨[c], [c, d.argsClose] ++ d.closing.toList, by simp [hsame]⟩
  · intro hsame
    exact hopen₂ ⟨[c, d.argsOpen, c], [c, d.argsClose] ++ d.closing.toList, by simp [hsame]⟩
  · rintro t ⟨r, hr⟩ hsame
    exact hopen₁ ⟨[c, d.argsOpen, c], r, by simp [hsame, ← hr]⟩
  · -- `u` alone is a call
    intro u t hnames hu ht hprefix hsplit
    have hword : d.Word (String.ofList u) := by
      refine word_ofList hd hopening hu hnames fun hin => ?_
      have hlength := hin.length_le
      have hpos := List.length_pos_iff.2 ht
      rw [hsplit, List.length_append] at hlength
      omega
    refine (h _ [] hword (List.forall_mem_nil _)).2 ?_
    rw [bareCall_nil, String.toList_ofList]
    exact infix_dropLast_of_overlap hu hsplit hprefix
  · intro u t hnames hsplit
    have hword : ∀ s, s ≠ [] → (∀ a ∈ s, isNameChar a = true) → d.Word (String.ofList s) := by
      intro s hs hall
      refine word_ofList hd hopening hs hall fun hin => ?_
      have hmem : d.argsOpen ∈ d.closing.toList := by simp [hsplit]
      have hbracket := hall _ (hin.subset hmem)
      rw [(Body.collides_eq_false_iff.1 hd.argsOpen).1] at hbracket
      cases hbracket
    have hidentifier : d.Word (String.ofList (c :: u)) := by
      refine hword _ (by simp) (List.forall_mem_cons.2 ⟨hc, fun a ha => ?_⟩)
      exact hnames a (List.mem_append_left t ha)
    have hvalue : d.Word (String.ofList (t ++ [c])) := by
      refine hword _ (by simp) fun a ha => ?_
      rcases List.mem_append.1 ha with ha | ha
      · exact hnames a (List.mem_append_right u ha)
      · exact List.mem_singleton.1 ha ▸ hc
    refine (h _ _ hidentifier (List.forall_mem_singleton.2 hvalue)).2 ?_
    rw [List.dropLast_append_of_ne_nil hd.closing]
    exact List.IsInfix.trans (infix_bareCall_of_bracket hsplit c) (List.prefix_append _ _).isInfix

end Delimiters

/-- **When calls with bare values are found.** -/
theorem frames_iff_of_quiet {c : Config} (hc : ∀ i ∈ c.issues, i.isOfSyntax = false) :
    (∀ limit body, byteLength body ≤ limit →
      (c.delimiters.Frames limit body ↔
        ¬ c.delimiters.opening.toList <:+: body ++ c.delimiters.closing.toList ∧
          ¬ c.delimiters.closing.toList <:+: (body ++ c.delimiters.closing.toList).dropLast)) ∧
    ((∀ a ∈ c.delimiters.opening.toList, isNameChar a = false) →
      ((∀ limit identifier values, c.delimiters.Word identifier →
          (∀ value ∈ values, c.delimiters.Word value) →
          byteLength (c.delimiters.bareCall identifier values) ≤ limit →
          c.delimiters.Frames limit (c.delimiters.bareCall identifier values)) ↔
        c.delimiters.Clear)) := by
  have hd := Config.quiet_iff.1 hc
  generalize c.delimiters = d at hd
  refine ⟨fun limit body => d.frames_iff hd.opening hd.closing, fun hopening => ⟨?_, ?_⟩⟩
  · intro h
    refine Delimiters.clear_of_frames hd hopening fun identifier values hid hvalues => ?_
    exact (d.frames_iff hd.opening hd.closing le_rfl).1 (h _ identifier values hid hvalues le_rfl)
  · intro h limit identifier values hid hvalues hlimit
    refine (d.frames_iff hd.opening hd.closing hlimit).2 ⟨?_, h.not_infix_closing hd hid hvalues⟩
    exact h.not_infix_opening hopening hid.name fun value hvalue => (hvalues value hvalue).name

theorem frames_standard :
    (∀ i ∈ Config.standard.issues, i.isOfSyntax = false) ∧
      (∀ a ∈ Config.standard.delimiters.opening.toList, isNameChar a = false) ∧
      Config.standard.delimiters.Clear ∧
      Config.standard.delimiters.Frames 1024
        (Config.standard.delimiters.bareCall "ID" ["a", "b"]) := by
  have hc : ∀ i ∈ Config.standard.issues, i.isOfSyntax = false := by decide
  have hfirst : Config.standard.delimiters.opening.toList = ['$', '{'] := by decide
  have hlast : Config.standard.delimiters.closing.toList = ['}'] := by decide
  have hopening : ∀ a ∈ Config.standard.delimiters.opening.toList, isNameChar a = false := by
    rw [hfirst]
    simp [show isNameChar '$' = false by decide, show isNameChar '{' = false by decide]
  have hclear : Config.standard.delimiters.Clear := by
    refine .of_disjoint (by decide) ?_ ?_
    · rw [hfirst, hlast]
      simp [Config.standard, Delimiters.standard]
    · rw [hlast]
      simp [Config.standard, Delimiters.standard, show isNameChar '}' = false by decide]
  have hword : ∀ word ∈ ["ID", "a", "b"], Config.standard.delimiters.Word word := by
    intro word hword
    fin_cases hword <;> exact ⟨by decide, by decide, by decide⟩
  refine ⟨hc, hopening, hclear, ?_⟩
  exact ((frames_iff_of_quiet hc).2 hopening).2 hclear _ _ _ (hword _ List.mem_cons_self)
    (List.forall_mem_cons.1 hword).2 (by decide)

/-- Delimiters of which the closing one is the bracket that opens arguments. -/
def Config.bracketed : Config :=
  { Config.standard with delimiters := { Delimiters.standard with closing := "(" } }

/-- A call with arguments is cut at its opening bracket. -/
theorem not_frames_bracketed :
    Config.bracketed.issues = [] ∧
      Config.bracketed.delimiters.Word "ID" ∧ Config.bracketed.delimiters.Word "a" ∧
      byteLength (Config.bracketed.delimiters.bareCall "ID" ["a"]) ≤
        Config.bracketed.limits.bodyLength ∧
      ¬ Config.bracketed.delimiters.Frames Config.bracketed.limits.bodyLength
        (Config.bracketed.delimiters.bareCall "ID" ["a"]) := by
  refine ⟨by decide, ⟨by decide, by decide, by decide⟩, ⟨by decide, by decide, by decide⟩,
    by decide, ?_⟩
  unfold Delimiters.Frames
  decide +kernel

end Stencil
