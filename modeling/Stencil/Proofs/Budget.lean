import Stencil.Proofs.Splice

/-!
# The limit of replacements

A render counts the placeholders that it has replaced, and when the limit is reached it only copies.
Where the answers of the expressions are determined by the calls (`Registry.DeterministicIn`), the
count is all that one placeholder hands on to the next. So the pieces of a render are those that the
segments have one by one (`Engine.unlimited`), cut off where the limit is used up (`Piece.cutOff`).
This is the one induction over a render here; two renders with different limits are compared by it,
and so are renders of a template and of its parts.

The log is left out of the comparison (`Piece.silent`), for what it says of an answer may depend on
the random words.
-/

namespace Stencil

open Text

/-! ### Pieces without the log -/

/-- An outcome without what the log says of it. -/
def Outcome.silent : Outcome → Outcome
  | .substituted identifier value _ => .substituted identifier value []
  | o => o

namespace Piece

/-- A piece without what the log says of it. -/
def silent : Piece → Piece
  | .copied cut => .copied ⟨cut.segment, none⟩
  | .placeholder raw outcome => .placeholder raw outcome.silent

/-- A piece as it is when the limit has been reached. -/
def skip : Piece → Piece
  | .copied cut => .copied cut
  | .placeholder raw _ => .placeholder raw .skipped

/-- The expression that replaced a placeholder, and the text that it gave. -/
def answer? : Piece → Option (String × String)
  | .placeholder _ (.substituted identifier value _) => some (identifier, value)
  | _ => none

/-- Pieces of which only so many more may replace a placeholder. -/
def cutOff (budget : Nat) : List Piece → List Piece
  | [] => []
  | p :: rest =>
    (if budget = 0 then p.skip else p) ::
      cutOff (if p.isSubstituted then budget - 1 else budget) rest

@[simp] theorem isSubstituted_silent (p : Piece) : p.silent.isSubstituted = p.isSubstituted := by
  rcases p with cut | ⟨raw, _ | _ | _ | _⟩ <;> rfl

@[simp] theorem unknown?_silent (p : Piece) : p.silent.unknown? = p.unknown? := by
  rcases p with cut | ⟨raw, _ | _ | _ | _⟩ <;> rfl

@[simp] theorem isMalformed_silent (p : Piece) : p.silent.isMalformed = p.isMalformed := by
  rcases p with cut | ⟨raw, _ | _ | _ | _⟩ <;> rfl

@[simp] theorem isSkipped_silent (p : Piece) : p.silent.isSkipped = p.isSkipped := by
  rcases p with cut | ⟨raw, _ | _ | _ | _⟩ <;> rfl

@[simp] theorem isUnterminated_silent (p : Piece) :
    p.silent.isUnterminated = p.isUnterminated := by
  rcases p with ⟨_ | _ | _ | _, _⟩ | _ <;> rfl

@[simp] theorem isEscaped_silent (p : Piece) : p.silent.isEscaped = p.isEscaped := by
  rcases p with ⟨_ | _ | _ | _, _⟩ | _ <;> rfl

@[simp] theorem answer?_silent (p : Piece) : p.silent.answer? = p.answer? := by
  rcases p with cut | ⟨raw, _ | _ | _ | _⟩ <;> rfl

@[simp] theorem text_silent (p : Piece) : p.silent.text = p.text := by
  rcases p with cut | ⟨raw, _ | _ | _ | _⟩ <;> rfl

@[simp] theorem skip_skip (p : Piece) : p.skip.skip = p.skip := by
  cases p <;> rfl

theorem skip_silent (p : Piece) : p.silent.skip = p.skip.silent := by
  cases p <;> rfl

theorem text_of_answer? {p : Piece} {identifier value : String}
    (h : p.answer? = some (identifier, value)) : p.text = value.toList := by
  rcases p with cut | ⟨raw, _ | _ | _ | _⟩ <;> simp_all [answer?, text]

theorem isSome_answer? (p : Piece) : p.answer?.isSome = p.isSubstituted := by
  rcases p with cut | ⟨raw, _ | _ | _ | _⟩ <;> rfl

theorem text_skip_of_not_isSubstituted {p : Piece} (h : p.isSubstituted = false) :
    p.skip.text = p.text := by
  rcases p with cut | ⟨raw, _ | _ | _ | _⟩ <;> first | rfl | cases h

theorem skip_eq_self_of_not_isSkipped {p : Piece} (h : p.skip.isSkipped = false) : p.skip = p := by
  cases p with
  | copied cut => rfl
  | placeholder raw outcome => cases h

end Piece

theorem Report.ofPieces_map_silent (pieces : List Piece) :
    Report.ofPieces (pieces.map Piece.silent) = Report.ofPieces pieces := by
  simp [Report.ofPieces, List.countP_map, List.any_map, List.filterMap_map, Function.comp_def]

/-! ### Cutting off -/

namespace Piece

variable {budget budget' : Nat} {pieces : List Piece}

theorem cutOff_cons (budget : Nat) (p : Piece) (rest : List Piece) :
    cutOff budget (p :: rest) = (if budget = 0 then p.skip else p) ::
      cutOff (if p.isSubstituted then budget - 1 else budget) rest := rfl

@[simp] theorem length_cutOff (budget : Nat) (pieces : List Piece) :
    (cutOff budget pieces).length = pieces.length := by
  induction pieces generalizing budget with
  | nil => rfl
  | cons p pieces ih => rw [cutOff_cons, List.length_cons, ih, List.length_cons]

/-- Which pieces are left as they are: those with fewer replacements in front of them than the
    budget. -/
theorem getElem?_cutOff (budget : Nat) (pieces : List Piece) (i : Nat) :
    (cutOff budget pieces)[i]? = pieces[i]?.map fun p =>
      if (pieces.take i).countP isSubstituted < budget then p else p.skip := by
  induction pieces generalizing budget i with
  | nil => simp [cutOff]
  | cons p pieces ih =>
    cases i with
    | zero => by_cases hbudget : budget = 0 <;> simp [cutOff_cons, hbudget, Nat.pos_iff_ne_zero]
    | succ i =>
      rw [cutOff_cons, List.getElem?_cons_succ, ih, List.getElem?_cons_succ, List.take_succ_cons,
        List.countP_cons]
      congr 1
      funext q
      by_cases hp : p.isSubstituted = true
      · simp only [hp, if_true]
        congr 1
        simp only [eq_iff_iff]
        omega
      · simp [hp]

theorem filterMap_answer?_cutOff (budget : Nat) (pieces : List Piece) :
    (cutOff budget pieces).filterMap answer? = (pieces.filterMap answer?).take budget := by
  induction pieces generalizing budget with
  | nil => simp [cutOff]
  | cons p pieces ih =>
    have hp := p.isSome_answer?
    have hskip : p.skip.answer? = none := by cases p <;> rfl
    rw [cutOff_cons, List.filterMap_cons, List.filterMap_cons, ih]
    cases hanswer : p.answer? with
    | none =>
      -- the piece takes nothing from the budget, and gives no answer on either side
      rw [hanswer, Option.isSome_none, eq_comm] at hp
      by_cases hbudget : budget = 0 <;> simp [hp, hbudget, hskip, hanswer]
    | some a =>
      rw [hanswer, Option.isSome_some, eq_comm] at hp
      cases budget with
      | zero => simp [hp, hskip]
      | succ budget => simp [hp, hanswer]

theorem countP_isSubstituted_eq (pieces : List Piece) :
    pieces.countP isSubstituted = (pieces.filterMap answer?).length := by
  rw [List.length_filterMap_eq_countP]
  exact List.countP_congr fun p _ => by rw [isSome_answer?]

theorem countP_isSubstituted_cutOff (budget : Nat) (pieces : List Piece) :
    (cutOff budget pieces).countP isSubstituted = min budget (pieces.countP isSubstituted) := by
  rw [countP_isSubstituted_eq, filterMap_answer?_cutOff, List.length_take,
    ← countP_isSubstituted_eq]

theorem countP_isSubstituted_map_silent (pieces : List Piece) :
    (pieces.map silent).countP isSubstituted = pieces.countP isSubstituted := by
  simp [List.countP_map, Function.comp_def]

/-- A budget that is not used up changes nothing. -/
theorem cutOff_eq_self (h : pieces.countP isSubstituted < budget) :
    cutOff budget pieces = pieces := by
  apply List.ext_getElem?
  intro i
  rw [getElem?_cutOff]
  have hle : (pieces.take i).countP isSubstituted < budget :=
    Nat.lt_of_le_of_lt ((List.take_sublist i pieces).countP_le) h
  simp [hle]

theorem map_skip_cutOff (budget : Nat) (pieces : List Piece) :
    (cutOff budget pieces).map skip = pieces.map skip := by
  induction pieces generalizing budget with
  | nil => rfl
  | cons p pieces ih =>
    rw [cutOff_cons, List.map_cons, ih, List.map_cons]
    split <;> simp

end Piece

/-! ### Renders with determined answers -/

/-- Whatever the random words are, in the one world as in the other one, every expression answers
    a call with the same text. -/
def Registry.DeterministicIn (r : Registry) (world world' : World) : Prop :=
  ∀ x ∈ r.expressions, ∀ call words words',
    (x.generate world call words).value = (x.generate world' call words').value

theorem Registry.DeterministicIn.left {r : Registry} {world world' : World}
    (h : r.DeterministicIn world world') : r.DeterministicIn world world := by
  intro x hx call words words'
  rw [h x hx call words words, h x hx call words' words]

theorem Registry.mem_of_resolve {r : Registry} {identifier : String} {x : Expression}
    (h : r.resolve identifier = some x) : x ∈ r.expressions := by
  unfold resolve at h
  split at h
  · next y hlookup =>
    obtain rfl := Option.some.inj h
    obtain ⟨before, after, hentries, -⟩ := List.lookup_eq_some_iff.1 hlookup
    rw [expressions, hentries]
    simp
  · exact List.mem_of_find?_eq_some h

namespace Engine

variable {e : Engine} {world world' : World}

def limitedTo (e : Engine) (expansions : Nat) : Engine :=
  { e with limits := { e.limits with expansions } }

/-- The piece of a segment when no limit has been reached. -/
def unlimited (e : Engine) (world : World) (words : Words) : Segment → Piece
  | .placeholder raw body => .placeholder raw (e.expand world words body).1.silent
  | s => .copied ⟨s, none⟩

theorem expand_silent (hr : e.registry.DeterministicIn world world') (words words' : Words)
    (body : List Char) :
    (e.expand world words body).1.silent = (e.expand world' words' body).1.silent := by
  unfold expand
  cases Call.ofBody e.delimiters body with
  | error error => rfl
  | ok call =>
    cases hresolve : e.registry.resolve call.identifier with
    | none => simp only [hresolve]
    | some x =>
      have hvalue := hr x (Registry.mem_of_resolve hresolve) call words words'
      simp only [hresolve, Outcome.silent, hvalue]

theorem unlimited_of_copied {s : Segment} (h : s.isPlaceholder = false) (world : World)
    (words : Words) : e.unlimited world words s = .copied ⟨s, none⟩ := by
  cases s with
  | placeholder raw body => cases h
  | _ => rfl

theorem isSubstituted_placeholder_silent (raw : List Char) (outcome : Outcome) :
    (Piece.placeholder raw outcome.silent).isSubstituted = outcome.isSubstituted := by
  cases outcome <;> rfl

/-- **A render cuts off where the limit is used up.** The pieces are those of the segments, one by
    one, until there have been so many replacements. -/
theorem pieces_silent (hr : e.registry.DeterministicIn world world') (words : Words)
    (cuts : List Cut) (count : Nat) (words' : Words) :
    (e.pieces world' count words' cuts).pieces.map Piece.silent =
      Piece.cutOff (e.limits.expansions - count)
        ((cuts.map Cut.segment).map (e.unlimited world words)) := by
  induction cuts generalizing count words' with
  | nil => rfl
  | cons cut cuts ih =>
    rw [List.map_cons, List.map_cons, Piece.cutOff_cons]
    by_cases hplace : cut.segment.isPlaceholder = false
    · rw [pieces_copied hplace, unlimited_of_copied hplace]
      simp [Piece.silent, Piece.skip, Piece.isSubstituted, ih]
    · rw [Bool.not_eq_false] at hplace
      obtain ⟨raw, body, hsegment⟩ := Segment.exists_of_isPlaceholder hplace
      rw [pieces_placeholder hsegment, hsegment]
      by_cases hlimit : e.limits.expansions ≤ count
      · -- the limit has been reached, and stays reached
        have hbudget : e.limits.expansions - count = 0 := Nat.sub_eq_zero_of_le hlimit
        simp [settle, hlimit, hbudget, Outcome.isSubstituted, ih, Piece.silent, Outcome.silent,
          unlimited, Piece.skip]
      · have hbudget : e.limits.expansions - count ≠ 0 := by omega
        have hsilent := expand_silent hr words words' body
        have hsubstituted := isSubstituted_placeholder_silent raw (e.expand world' words' body).1
        rw [← hsilent] at hsubstituted
        simp only [settle, if_neg hlimit, if_neg hbudget, List.map_cons, ih, Piece.silent,
          unlimited, hsilent, ← hsubstituted]
        congr 2
        split <;> omega

theorem isSkipped_unlimited (world : World) (words : Words) (s : Segment) :
    (e.unlimited world words s).isSkipped = false := by
  cases s with
  | placeholder raw body =>
    simp only [unlimited, expand]
    split
    · rfl
    · split <;> rfl
  | _ => rfl

theorem text_skip_unlimited (world : World) (words : Words) (s : Segment) :
    (e.unlimited world words s).skip.text = s.text := by
  cases s <;> rfl

theorem countP_isSubstituted_unlimited_le (world : World) (words : Words)
    (segments : List Segment) :
    (segments.map (e.unlimited world words)).countP Piece.isSubstituted ≤
      segments.countP Segment.isPlaceholder := by
  rw [List.countP_map]
  apply List.countP_mono_left
  intro s _ hs
  cases s with
  | placeholder raw body => rfl
  | _ => cases hs

end Engine

/-! ### Lengths -/

theorem byteLength_flatMap_text_le (d : Delimiters) (segments : List Segment) :
    byteLength (segments.flatMap Segment.text) ≤
      byteLength (segments.flatMap (Segment.source d)) := by
  induction segments with
  | nil => exact Nat.le_refl _
  | cons s segments ih =>
    have hs : byteLength s.text ≤ byteLength (s.source d) := by
      cases s with
      | escaped t =>
        rw [Segment.source, byteLength_append]
        exact Nat.le_add_left _ _
      | _ => exact Nat.le_refl _
    rw [List.flatMap_cons, List.flatMap_cons, byteLength_append, byteLength_append]
    exact Nat.add_le_add hs ih

theorem Piece.byteLength_flatMap_text_le {bound : Nat} {pieces : List Piece}
    (hbound : ∀ p ∈ pieces, ∀ identifier value, p.answer? = some (identifier, value) →
      byteLength value.toList ≤ bound) :
    byteLength (pieces.flatMap text) ≤
      byteLength ((pieces.map fun p => p.skip.text).flatten) +
        pieces.countP isSubstituted * bound := by
  induction pieces with
  | nil => exact Nat.zero_le _
  | cons p pieces ih =>
    -- a replacement pays for its answer with one more count, all else has the text of the template
    obtain ⟨hp, hrest⟩ := List.forall_mem_cons.1 hbound
    have ih := ih hrest
    have hsome := p.isSome_answer?
    rw [List.flatMap_cons, List.map_cons, List.flatten_cons, byteLength_append, byteLength_append,
      List.countP_cons]
    cases hanswer : p.answer? with
    | none =>
      rw [hanswer, Option.isSome_none, eq_comm] at hsome
      rw [text_skip_of_not_isSubstituted hsome, hsome]
      simp only [Bool.false_eq_true, if_false, Nat.add_zero]
      omega
    | some answer =>
      rw [hanswer, Option.isSome_some, eq_comm] at hsome
      have hlength := hp answer.1 answer.2 hanswer
      rw [text_of_answer? hanswer, hsome, if_pos rfl, Nat.add_mul, Nat.one_mul]
      omega

/-! ### Two limits -/

/-- How a render with at most `n` replacements differs from one without a limit: a piece with fewer
    than `n` replacements in front of it is the same, and all other ones are skipped. So the first
    replacements are made, and the others are not; and nothing is skipped before there have been
    `n` of them. -/
structure Rendering.CutOff (n : Nat) (full cut : Rendering) : Prop where
  length : cut.pieces.length = full.pieces.length
  pieces : ∀ i p q, full.pieces[i]? = some p → cut.pieces[i]? = some q →
    q.silent = if (full.pieces.take i).countP Piece.isSubstituted < n then p.silent
      else p.skip.silent
  answers : cut.pieces.filterMap Piece.answer? = (full.pieces.filterMap Piece.answer?).take n
  substituted : cut.report.substituted = min n full.report.substituted
  skipped : 0 < cut.report.skipped → cut.report.substituted = n

namespace Rendering

variable {n : Nat} {full cut : Rendering}

theorem report_eq_of_silent {r r' : Rendering}
    (h : r.pieces.map Piece.silent = r'.pieces.map Piece.silent) : r.report = r'.report := by
  rw [report, report, ← Report.ofPieces_map_silent, h, Report.ofPieces_map_silent]

theorem substituted_of_silent
    (h : cut.pieces.map Piece.silent = Piece.cutOff n (full.pieces.map Piece.silent)) :
    cut.report.substituted = min n full.report.substituted := by
  have hcount := congrArg (List.countP Piece.isSubstituted) h
  rw [Piece.countP_isSubstituted_cutOff, Piece.countP_isSubstituted_map_silent,
    Piece.countP_isSubstituted_map_silent] at hcount
  exact hcount

theorem cutOff_of_silent (hfull : full.report.skipped = 0)
    (h : cut.pieces.map Piece.silent = Piece.cutOff n (full.pieces.map Piece.silent)) :
    CutOff n full cut where
  length := by simpa using congrArg List.length h
  pieces i p q hp hq := by
    have hi := congrArg (·[i]?) h
    simp only [Piece.getElem?_cutOff, List.getElem?_map, hp, hq, Option.map_some,
      Option.some.injEq, ← List.map_take, Piece.countP_isSubstituted_map_silent,
      Piece.skip_silent] at hi
    exact hi
  answers := by
    have hanswers := congrArg (List.filterMap Piece.answer?) h
    rw [Piece.filterMap_answer?_cutOff] at hanswers
    simpa [List.filterMap_map, Function.comp_def] using hanswers
  substituted := substituted_of_silent h
  skipped := by
    intro hskipped
    have hsubstituted := substituted_of_silent h
    by_contra hne
    -- were there fewer replacements, the budget would not be used up, and nothing skipped
    have hlt : (full.pieces.map Piece.silent).countP Piece.isSubstituted < n := by
      rw [Piece.countP_isSubstituted_map_silent]
      change cut.report.substituted = min n (full.pieces.countP Piece.isSubstituted) at hsubstituted
      omega
    rw [Piece.cutOff_eq_self hlt] at h
    rw [report_eq_of_silent h, hfull] at hskipped
    exact Nat.lt_irrefl 0 hskipped

end Rendering

namespace Engine

variable {e : Engine} {world world' : World} {template : String}

theorem render_silent (hr : e.registry.DeterministicIn world world') (words words' : Words)
    (template : String) :
    (e.render world' words' template).pieces.map Piece.silent =
      Piece.cutOff e.limits.expansions
        ((segments e.delimiters e.limits.bodyLength template.toList).map
          (e.unlimited world words)) :=
  e.pieces_silent hr words _ 0 words'

theorem render_silent_limitedTo (hr : e.registry.DeterministicIn world world')
    (words words' : Words) (n : Nat) (template : String) :
    ((e.limitedTo n).render world' words' template).pieces.map Piece.silent =
      Piece.cutOff n ((segments e.delimiters e.limits.bodyLength template.toList).map
        (e.unlimited world words)) :=
  (e.limitedTo n).render_silent hr words words' template

/-- A limit that exceeds the number of placeholders is never reached. -/
theorem render_silent_of_lt (hr : e.registry.DeterministicIn world world') (words words' : Words)
    {m : Nat} (hm : (segments e.delimiters e.limits.bodyLength template.toList).countP
      Segment.isPlaceholder < m) :
    ((e.limitedTo m).render world' words' template).pieces.map Piece.silent =
      (segments e.delimiters e.limits.bodyLength template.toList).map
        (e.unlimited world words) := by
  rw [render_silent_limitedTo hr words words' m]
  apply Piece.cutOff_eq_self
  exact Nat.lt_of_le_of_lt (countP_isSubstituted_unlimited_le world words _) hm

theorem skipped_of_silent {r : Rendering} {segments : List Segment} {words : Words}
    (h : r.pieces.map Piece.silent = segments.map (e.unlimited world words)) :
    r.report.skipped = 0 := by
  rw [Rendering.report, ← Report.ofPieces_map_silent, h, Report.ofPieces, List.countP_eq_zero]
  intro p hp
  obtain ⟨s, -, rfl⟩ := List.mem_map.1 hp
  rw [isSkipped_unlimited]
  exact Bool.false_ne_true

theorem map_skip_of_silent {r : Rendering} {segments : List Segment} {words : Words} {n : Nat}
    (h : r.pieces.map Piece.silent = Piece.cutOff n (segments.map (e.unlimited world words))) :
    (r.pieces.map fun p => p.skip.text) = segments.map Segment.text := by
  have hskip := congrArg (List.map fun p => p.skip.text) h
  have hcut := congrArg (List.map Piece.text)
    (Piece.map_skip_cutOff n (segments.map (e.unlimited world words)))
  simp only [List.map_map, Function.comp_def, Piece.skip_silent, Piece.text_silent,
    text_skip_unlimited] at hskip hcut
  exact hskip.trans hcut

end Engine

/-- **The limit of replacements cuts off a prefix.** Let the answers be determined by the calls, and
    let `m` exceed the number of placeholders. A render with at most `m` replacements skips nothing,
    and one with at most `n` replacements is cut off from it, whatever the random words of the two
    are. What is skipped is copied as it stands. So if no answer has more than `bound` bytes, the
    output is longer than the template by at most `n` times as much. -/
theorem render_cut_off {e : Engine} {world world' : World} {template : String} {m : Nat}
    (hr : e.registry.DeterministicIn world world')
    (hm : (segments e.delimiters e.limits.bodyLength template.toList).countP
      Segment.isPlaceholder < m)
    (n : Nat) (words words' : Words) :
    ((e.limitedTo m).render world words template).report.skipped = 0 ∧
    Rendering.CutOff n ((e.limitedTo m).render world words template)
      ((e.limitedTo n).render world' words' template) ∧
    (((e.limitedTo n).render world' words' template).pieces.map fun p => p.skip.text) =
      (segments e.delimiters e.limits.bodyLength template.toList).map Segment.text ∧
    ∀ bound, (∀ p ∈ ((e.limitedTo n).render world' words' template).pieces,
        ∀ identifier value, p.answer? = some (identifier, value) →
          byteLength value.toList ≤ bound) →
      byteLength ((e.limitedTo n).render world' words' template).output.toList ≤
        byteLength template.toList + n * bound := by
  have hfull := Engine.render_silent_of_lt hr.left words words hm
  have hcut := Engine.render_silent_limitedTo hr words words' n template
  have hskipped := Engine.skipped_of_silent hfull
  have htext := Engine.map_skip_of_silent hcut
  rw [← hfull] at hcut
  have hcutOff := Rendering.cutOff_of_silent hskipped hcut
  refine ⟨hskipped, hcutOff, htext, ?_⟩
  intro bound hbound
  have hsource : (segments e.delimiters e.limits.bodyLength template.toList).flatMap
      (Segment.source e.delimiters) = template.toList :=
    Scan.flatMap_source_segments e.delimiters e.limits.bodyLength (.text template.toList)
  have hwritten := byteLength_flatMap_text_le e.delimiters
    (segments e.delimiters e.limits.bodyLength template.toList)
  have hlonger := Piece.byteLength_flatMap_text_le hbound
  have hcount : ((e.limitedTo n).render world' words' template).report.substituted ≤ n := by
    rw [hcutOff.substituted]
    exact Nat.min_le_left _ _
  rw [hsource] at hwritten
  rw [htext, ← List.flatMap_def] at hlonger
  rw [Rendering.output, String.toList_ofList]
  calc byteLength (((e.limitedTo n).render world' words' template).pieces.flatMap Piece.text)
      ≤ byteLength ((segments e.delimiters e.limits.bodyLength template.toList).flatMap
            Segment.text) +
          ((e.limitedTo n).render world' words' template).report.substituted * bound := hlonger
    _ ≤ byteLength template.toList + n * bound :=
        Nat.add_le_add hwritten (Nat.mul_le_mul_right bound hcount)

/-- An engine that knows how to repeat the values of a call. -/
def Engine.echoing : Engine where
  registry := ⟨[(fold "ECHO", .plain "ECHO" "Repeats its values" fun _ call words =>
    Expression.fixed (String.join call.positionals) words)]⟩
  delimiters := .standard
  limits := .standard

theorem Engine.deterministicIn_echoing (world world' : World) :
    Engine.echoing.registry.DeterministicIn world world' := by
  intro x hx call words words'
  obtain rfl := List.mem_singleton.1 hx
  rfl

/-- A malformed placeholder, an unknown one and a known one, twice. -/
def Engine.mixture : String :=
  "$\x7b!\x7d$\x7bX\x7d$\x7bEcho(a)\x7d$\x7b!\x7d$\x7bX\x7d$\x7bEcho(b)\x7d"

theorem render_cut_off_mixture :
    Engine.echoing.registry.DeterministicIn ⟨0, ⟨[]⟩⟩ ⟨7, ⟨[]⟩⟩ ∧
      (segments Engine.echoing.delimiters Engine.echoing.limits.bodyLength
        Engine.mixture.toList).countP Segment.isPlaceholder < 7 ∧
      Rendering.CutOff 1
        ((Engine.echoing.limitedTo 7).render ⟨0, ⟨[]⟩⟩ ⟨fun _ => 0, 0⟩ Engine.mixture)
        ((Engine.echoing.limitedTo 1).render ⟨7, ⟨[]⟩⟩ ⟨fun _ => 1, 0⟩ Engine.mixture) ∧
      ((Engine.echoing.limitedTo 1).render ⟨7, ⟨[]⟩⟩ ⟨fun _ => 1, 0⟩
        Engine.mixture).pieces.filterMap Piece.answer? = [("ECHO", "a")] ∧
      byteLength ((Engine.echoing.limitedTo 1).render ⟨7, ⟨[]⟩⟩ ⟨fun _ => 1, 0⟩
        Engine.mixture).output.toList ≤ byteLength Engine.mixture.toList + 1 * 1 := by
  have hr := Engine.deterministicIn_echoing ⟨0, ⟨[]⟩⟩ ⟨7, ⟨[]⟩⟩
  have hm : (segments Engine.echoing.delimiters Engine.echoing.limits.bodyLength
      Engine.mixture.toList).countP Segment.isPlaceholder < 7 := by decide +kernel
  obtain ⟨-, hcut, -, hlength⟩ := render_cut_off hr hm 1 ⟨fun _ => 0, 0⟩ ⟨fun _ => 1, 0⟩
  have hfull : ((Engine.echoing.limitedTo 7).render ⟨0, ⟨[]⟩⟩ ⟨fun _ => 0, 0⟩
      Engine.mixture).pieces.filterMap Piece.answer? = [("ECHO", "a"), ("ECHO", "b")] := by
    decide +kernel
  have hanswers := hcut.answers
  rw [hfull] at hanswers
  refine ⟨hr, hm, hcut, hanswers, hlength 1 ?_⟩
  intro p hp identifier value hanswer
  have hmem := List.mem_filterMap.2 ⟨p, hp, hanswer⟩
  rw [hanswers] at hmem
  obtain ⟨rfl, rfl⟩ := Prod.mk.inj (List.mem_singleton.1 hmem)
  decide

end Stencil
