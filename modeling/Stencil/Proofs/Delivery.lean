import Mathlib.Data.List.Chain
import Mathlib.Data.List.Infix
import Stencil.Expression.Choice
import Stencil.Proofs.Spelling
import Stencil.Proofs.Splice

/-!
# Arguments arrive as they were written

A template that is nothing but one placeholder, with a call written out between its delimiters. All
values are in quotes, so they may hold brackets, separators, quotes and backslashes; only the
delimiters of a placeholder must not lie in them (`Harmless`). Then the cutting finds the
placeholder, the reading gives the call back, the registry knows the identifier in any case of its
letters, and the output is what the expression answers to exactly this call.
-/

namespace Stencil

open Text

/-! ### A template of one placeholder -/

theorem Delimiters.beforeEscape_nil (d : Delimiters) : d.beforeEscape [] = none := by
  rw [beforeEscape_eq_none_iff]
  by_cases h : d.escapeText = []
  · exact .inl h
  · exact .inr fun hsuffix => h (List.suffix_nil.1 hsuffix)

/-- A body without delimiters, between two delimiters, is one placeholder. -/
theorem segments_lone {d : Delimiters} {limit : Nat} {body : List Char}
    (hopening : d.opening.toList ≠ [])
    (hopen : ¬ d.opening.toList <:+: body ++ d.closing.toList)
    (hclose : FirstAt d.closing.toList (body ++ d.closing.toList) body [])
    (hlimit : byteLength body ≤ limit) :
    segments d limit (d.opening.toList ++ (body ++ d.closing.toList)) =
      [.placeholder (d.opening.toList ++ body ++ d.closing.toList) body] := by
  have hfirst : d.findOpening (d.opening.toList ++ (body ++ d.closing.toList)) =
      some ([], body ++ d.closing.toList) :=
    Delimiters.findOpening_eq_some_iff.2 ⟨hopening, .front _ _⟩
  have hcut : Scan.inText d limit (d.opening.toList ++ (body ++ d.closing.toList)) =
      Scan.cut (.placeholder (d.opening.toList ++ body ++ d.closing.toList) body) (.text []) := by
    rw [Scan.inText, hfirst]
    simp only [d.beforeEscape_nil, List.isEmpty_nil, if_true]
    rw [Scan.afterOpening, Delimiters.findOpening_eq_none_iff.2 (.inr hopen),
      Delimiters.findClosing_eq_some_iff.2 hclose]
    simp only [Scan.close, if_neg (Nat.not_lt.2 hlimit)]
  change Scan.segments d limit (.text (d.opening.toList ++ (body ++ d.closing.toList))) = _
  rw [Scan.segments_text d limit (by simp [hopening]), hcut]
  exact congrArg (_ :: ·) (Scan.segments_text_nil d limit)

/-- The only placeholder of a template, when it has an answer. -/
theorem Engine.render_lone {e : Engine} {template : String} {raw body : List Char} {call : Call}
    {x : Expression} (world : World) (words : Words)
    (hsegments : segments e.delimiters e.limits.bodyLength template.toList =
      [.placeholder raw body]) (hanswers : e.Answers 0 body call x) :
    e.render world words template =
      ⟨[.placeholder raw (.substituted x.identifier (x.generate world call words).value
          (x.generate world call words).records)], (x.generate world call words).words⟩ := by
  obtain ⟨hlimit, hread, hresolve⟩ := hanswers
  obtain ⟨cut, hcuts, hcut⟩ := List.map_eq_singleton_iff.1 hsegments
  have hsettle : e.settle world 0 words body =
      (.substituted x.identifier (x.generate world call words).value
        (x.generate world call words).records, (x.generate world call words).words) := by
    rw [settle, if_neg (Nat.not_le.2 hlimit), expand, hread]
    simp only [hresolve]
  rw [render, hcuts, pieces_placeholder hcut, hsettle]
  rfl

/-! ### Texts without delimiters -/

namespace Text

theorem not_infix_pair_iff {a b : Char} {s : List Char} :
    ¬ [a, b] <:+: s ↔ s.IsChain fun x y => ¬ (x = a ∧ y = b) := by
  rw [List.isChain_iff_forall_rel_of_append_cons_cons]
  constructor
  · rintro h x y u v rfl ⟨rfl, rfl⟩
    exact h ⟨u, v, by rw [List.append_assoc]; rfl⟩
  · rintro h ⟨u, v, rfl⟩
    have hsplit : u ++ [a, b] ++ v = u ++ a :: b :: v := by
      rw [List.append_assoc]
      rfl
    exact h hsplit ⟨rfl, rfl⟩

theorem firstAt_singleton {c : Char} {before : List Char} (h : c ∉ before) :
    FirstAt [c] (before ++ [c]) before [] := by
  apply FirstAt.of_dropLast
  rw [List.dropLast_concat, List.singleton_infix_iff]
  exact h

end Text

/-- A text in which no delimiter of the usual punctuation lies. -/
structure Harmless (s : List Char) : Prop where
  opening : ¬ Delimiters.standard.opening.toList <:+: s
  closing : ¬ Delimiters.standard.closing.toList <:+: s

namespace Harmless

variable {s t : List Char}

theorem iff_isChain :
    Harmless s ↔ (s.IsChain fun x y => ¬ (x = '$' ∧ y = '\x7b')) ∧ '\x7d' ∉ s := by
  have hopening : Delimiters.standard.opening.toList = ['$', '\x7b'] := rfl
  have hclosing : Delimiters.standard.closing.toList = ['\x7d'] := rfl
  constructor
  · rintro ⟨ho, hc⟩
    rw [hopening, not_infix_pair_iff] at ho
    rw [hclosing, List.singleton_infix_iff] at hc
    exact ⟨ho, hc⟩
  · rintro ⟨ho, hc⟩
    rw [← not_infix_pair_iff, ← hopening] at ho
    rw [← List.singleton_infix_iff, ← hclosing] at hc
    exact ⟨ho, hc⟩

theorem nil : Harmless [] := iff_isChain.2 ⟨.nil, List.not_mem_nil⟩

/-- A delimiter comes about at a seam only if the text behind it begins with a brace. -/
theorem append_cons {c : Char} (hs : Harmless s) (ht : Harmless (c :: t)) (hseam : c ≠ '\x7b') :
    Harmless (s ++ c :: t) := by
  obtain ⟨ho, hc⟩ := iff_isChain.1 hs
  obtain ⟨ho', hc'⟩ := iff_isChain.1 ht
  refine iff_isChain.2 ⟨ho.append ho' ?_, ?_⟩
  · rintro x - y hy ⟨-, rfl⟩
    exact hseam (Option.some.inj hy)
  · rw [List.mem_append]
    exact not_or.2 ⟨hc, hc'⟩

theorem cons {c : Char} (hs : Harmless s) (hopening : c ≠ '$') (hclosing : c ≠ '\x7d') :
    Harmless (c :: s) := by
  obtain ⟨ho, hc⟩ := iff_isChain.1 hs
  refine iff_isChain.2 ⟨ho.cons fun y _ h => hopening h.1, ?_⟩
  exact List.not_mem_cons_of_ne_of_not_mem (Ne.symm hclosing) hc

theorem of_forall (h : ∀ c ∈ s, c ≠ '$' ∧ c ≠ '\x7d') : Harmless s := by
  induction s with
  | nil => exact .nil
  | cons c s ih =>
    obtain ⟨hc, hs⟩ := List.forall_mem_cons.1 h
    exact (ih hs).cons hc.1 hc.2

theorem of_isIdentifier {name : String} (h : isIdentifier name = true) :
    Harmless name.toList := by
  obtain ⟨-, hchars⟩ := isIdentifier_iff.1 h
  refine of_forall fun c hc => ⟨?_, ?_⟩
  · rintro rfl
    exact absurd (hchars _ hc) (by decide)
  · rintro rfl
    exact absurd (hchars _ hc) (by decide)

/-- A closing delimiter behind a harmless text opens nothing, and is the first one. -/
theorem not_infix_closing (h : Harmless s) :
    ¬ Delimiters.standard.opening.toList <:+: s ++ Delimiters.standard.closing.toList := by
  have hopening : Delimiters.standard.opening.toList = ['$', '\x7b'] := rfl
  rw [hopening, not_infix_pair_iff]
  refine (iff_isChain.1 h).1.append (List.isChain_singleton '\x7d') ?_
  rintro x - y hy ⟨-, rfl⟩
  exact absurd (Option.some.inj hy) (by decide)

theorem firstAt_closing (h : Harmless s) :
    FirstAt Delimiters.standard.closing.toList (s ++ Delimiters.standard.closing.toList) s [] :=
  firstAt_singleton (iff_isChain.1 h).2

/-! ### Quoted values stay harmless -/

theorem head?_flatMap_spellChar {y : Char} (h : y ∈ (s.flatMap spellChar).head?) :
    y = '\\' ∨ y ∈ s.head? := by
  cases s with
  | nil => exact .inr h
  | cons c s =>
    rw [List.flatMap_cons, spellChar] at h
    split at h
    · exact .inl (Option.some.inj h).symm
    · exact .inr h

theorem flatMap_spellChar (h : Harmless s) : Harmless (s.flatMap spellChar) := by
  induction s with
  | nil => exact .nil
  | cons c s ih =>
    obtain ⟨ho, hc⟩ := iff_isChain.1 h
    have hrest : Harmless (s.flatMap spellChar) :=
      ih (iff_isChain.2 ⟨ho.tail, fun hmem => hc (List.mem_cons_of_mem _ hmem)⟩)
    rw [List.flatMap_cons, spellChar]
    by_cases hspecial : (c == '"' || c == '\\') = true
    · rw [if_pos hspecial]
      rw [Bool.or_eq_true, beq_iff_eq, beq_iff_eq] at hspecial
      rcases hspecial with rfl | rfl
      · exact (hrest.cons (by decide) (by decide)).cons (by decide) (by decide)
      · exact (hrest.cons (by decide) (by decide)).cons (by decide) (by decide)
    · -- The character itself may be the first half of a delimiter, but what follows is no other
      -- than what followed it in the value, or a backslash.
      rw [if_neg hspecial]
      obtain ⟨ho', hc'⟩ := iff_isChain.1 hrest
      refine iff_isChain.2 ⟨ho'.cons ?_, ?_⟩
      · rintro y hy ⟨rfl, rfl⟩
        rcases head?_flatMap_spellChar hy with hslash | hhead
        · exact absurd hslash (by decide)
        · exact ho.rel_head? hhead ⟨rfl, rfl⟩
      · refine List.not_mem_cons_of_ne_of_not_mem ?_ hc'
        rintro rfl
        exact hc List.mem_cons_self

theorem spellValue {value : String} (h : Harmless value.toList) :
    Harmless (spellValue value) := by
  have hclosing : Harmless ['"'] := Harmless.nil.cons (by decide) (by decide)
  have hspelled := h.flatMap_spellChar.append_cons hclosing (by decide)
  exact hspelled.cons (by decide) (by decide)

end Harmless

/-! ### Writing a call out -/

/-- A call written out in the usual punctuation. -/
def Call.written (call : Call) : List Char :=
  call.identifier.toList ++
    '(' :: ([',', ' '].intercalate (call.arguments.map Argument.written) ++ [')'])

/-- A template that is nothing but a call written out between the usual delimiters. -/
def Call.placeholder (call : Call) : String :=
  String.ofList (Delimiters.standard.opening.toList ++
    (call.written ++ Delimiters.standard.closing.toList))

/-- An argument that can be written between the usual delimiters: its name, if it has one, is a
    name, and no delimiter lies in its value. -/
structure Argument.Deliverable (a : Argument) : Prop where
  name : ∀ name, a.name = some name → isIdentifier name = true
  value : Harmless a.value.toList

namespace Argument

variable {a : Argument} {as : List Argument}

theorem Deliverable.harmless (h : a.Deliverable) : Harmless a.written := by
  obtain ⟨name, value⟩ := a
  cases name with
  | none => exact h.value.spellValue
  | some name =>
    have hvalue := h.value.spellValue.cons (c := '=') (by decide) (by decide)
    exact (Harmless.of_isIdentifier (h.name name rfl)).append_cons hvalue (by decide)

theorem harmless_intercalate (has : ∀ a ∈ as, a.Deliverable) :
    Harmless ([',', ' '].intercalate (as.map written)) := by
  induction as with
  | nil => exact .nil
  | cons a more ih =>
    obtain ⟨ha, hmore⟩ := List.forall_mem_cons.1 has
    cases more with
    | nil =>
      rw [List.map_singleton, List.intercalate_singleton]
      exact ha.harmless
    | cons a' more =>
      have hrest := ((ih hmore).cons (c := ' ') (by decide) (by decide)).cons (c := ',')
        (by decide) (by decide)
      rw [List.map_cons, List.map_cons, List.intercalate_cons_cons, List.append_assoc]
      exact ha.harmless.append_cons hrest (by decide)

end Argument

namespace Call

variable {call : Call}

theorem spells_written (hid : isIdentifier call.identifier = true)
    (hargs : ∀ a ∈ call.arguments, a.Deliverable) : call.Spells .standard call.written :=
  spells_quoted .standard hid (fun a ha => (hargs a ha).name) (List.forall_mem_singleton.2 rfl)

theorem harmless_written (hid : isIdentifier call.identifier = true)
    (hargs : ∀ a ∈ call.arguments, a.Deliverable) : Harmless call.written := by
  have hclosing : Harmless [')'] := Harmless.nil.cons (by decide) (by decide)
  have hinner := (Argument.harmless_intercalate hargs).append_cons hclosing (by decide)
  have hbracketed := hinner.cons (c := '(') (by decide) (by decide)
  exact (Harmless.of_isIdentifier hid).append_cons hbracketed (by decide)

theorem segments_placeholder {limit : Nat} (hharmless : Harmless call.written)
    (hlength : byteLength call.written ≤ limit) :
    segments .standard limit call.placeholder.toList =
      [.placeholder call.placeholder.toList call.written] := by
  have hlone := segments_lone (d := .standard) (by decide) hharmless.not_infix_closing
    hharmless.firstAt_closing hlength
  rw [List.append_assoc] at hlone
  rw [placeholder, String.toList_ofList]
  exact hlone

end Call

/-- **Arguments arrive as they were written.** Let an expression be registered, in whatever way the
    registry has come about. A call to it, its identifier in any case of its letters, is written out
    between the usual delimiters, all values in quotes. If no delimiter lies in a value, the body is
    not too long and one replacement is allowed, then the placeholder is replaced by what the
    expression answers to exactly this call, and nothing else happens. -/
theorem render_delivers {e : Engine} {x : Expression} {call : Call} (world : World) (words : Words)
    (hdelimiters : e.delimiters = .standard) (hlimit : 1 ≤ e.limits.expansions)
    (hregistry : e.registry.Reachable) (hx : x ∈ e.registry.expressions)
    (hidentifier : sameName call.identifier x.identifier = true)
    (hargs : ∀ a ∈ call.arguments, a.Deliverable)
    (hlength : byteLength call.written ≤ e.limits.bodyLength) :
    (e.render world words call.placeholder).report =
      { substituted := 1, unknown := [], malformed := 0, unterminated := false, skipped := 0,
        escaped := 0 } ∧
    (e.render world words call.placeholder).output = (x.generate world call words).value ∧
    (e.render world words call.placeholder).words = (x.generate world call words).words := by
  have hkeyed := hregistry.keyed
  have hfold : fold call.identifier = fold x.identifier := sameName_iff.1 hidentifier
  have hid : isIdentifier call.identifier = true := by
    obtain ⟨p, hp, rfl⟩ := List.mem_map.1 hx
    exact isIdentifier_of_fold_eq hfold (hkeyed.identifier p hp)
  have hsegments := Call.segments_placeholder (Call.harmless_written hid hargs) hlength
  have hread : Call.ofBody e.delimiters call.written = .ok call := by
    rw [hdelimiters]
    exact Call.ofBody_of_spells Delimiters.legible_standard (Call.spells_written hid hargs)
  have hanswers : e.Answers 0 call.written call x :=
    ⟨hlimit, hread, hkeyed.resolve_eq_some hx hfold⟩
  rw [← hdelimiters] at hsegments
  rw [Engine.render_lone world words hsegments hanswers]
  refine ⟨rfl, ?_, rfl⟩
  simp only [Rendering.output, List.flatMap_singleton, Piece.text, String.ofList_toList]

/-- An engine that can choose from the values of a call, once. -/
def Engine.chooser : Engine where
  registry := ⟨[(fold Choice.enumeration.identifier, Choice.enumeration)]⟩
  delimiters := .standard
  limits := ⟨1, 64⟩

/-- A call whose values are full of punctuation. -/
def Call.awkward : Call where
  identifier := "Random_Enum"
  arguments := [.positional "say \"a, b)\" \\", .named "values" "$ \x7b$"]

theorem render_delivers_awkward :
    (Engine.chooser.render ⟨0, ⟨[]⟩⟩ ⟨fun _ => 0, 0⟩ Call.awkward.placeholder).report =
      { substituted := 1, unknown := [], malformed := 0, unterminated := false, skipped := 0,
        escaped := 0 } ∧
    (Engine.chooser.render ⟨0, ⟨[]⟩⟩ ⟨fun _ => 0, 0⟩ Call.awkward.placeholder).output =
      "say \"a, b)\" \\" := by
  have hregistry : Engine.chooser.registry.Reachable :=
    .register .empty (Registry.register_eq_ok_iff.2 ⟨by decide, List.forall_mem_nil _, rfl⟩)
  have hargs : ∀ a ∈ Call.awkward.arguments, a.Deliverable := by
    intro a ha
    simp only [Call.awkward, List.mem_cons, List.not_mem_nil, or_false] at ha
    rcases ha with rfl | rfl
    · refine ⟨?_, Harmless.iff_isChain.2 (by decide)⟩
      intro name hname
      cases hname
    · refine ⟨?_, Harmless.iff_isChain.2 (by decide)⟩
      intro name hname
      cases hname
      decide
  obtain ⟨hreport, houtput, -⟩ := render_delivers (e := Engine.chooser)
    (x := Choice.enumeration) ⟨0, ⟨[]⟩⟩ ⟨fun _ => 0, 0⟩ rfl (by decide) hregistry
    List.mem_cons_self (by decide) hargs (by decide)
  exact ⟨hreport, houtput.trans (by decide)⟩

end Stencil
