import Mathlib.Data.List.Forall2
import Stencil.Proofs.Cutting
import Stencil.Template.Engine

/-!
# Rendering is a splice

What a render writes, said segment by segment. A `Visit` is a segment as the render comes to it:
how many placeholders have been replaced so far, and which random words are left. The rules of
`Engine.Visits` say what is written for it, and how it is left for the next one. They know three
kinds of segments only: one that is no placeholder, a placeholder with an answer, and a placeholder
without one.

`Engine.Becomes` says once what can become of a placeholder; everything about outputs and reports is
read off it.
-/

namespace Stencil

open Text

namespace Segment

def isPlaceholder : Segment → Bool
  | .placeholder .. => true
  | _ => false

def isEscaped : Segment → Bool
  | .escaped _ => true
  | _ => false

def isUnterminated : Segment → Bool
  | .unterminated _ => true
  | _ => false

theorem exists_of_isPlaceholder {s : Segment} (h : s.isPlaceholder = true) :
    ∃ raw body, s = .placeholder raw body := by
  cases s with
  | placeholder raw body => exact ⟨raw, body, rfl⟩
  | _ => cases h

/-- Only an escaped delimiter is written otherwise than it stands in the template. -/
theorem source_eq_text {s : Segment} (d : Delimiters) (h : s.isEscaped = false) :
    s.source d = s.text := by
  cases s with
  | escaped t => cases h
  | _ => rfl

end Segment

def Piece.isPlaceholder : Piece → Bool
  | .placeholder .. => true
  | .copied _ => false

/-! ### The rules of a render -/

/-- A segment as a render comes to it, and what is written in its place. -/
structure Visit where
  /-- So many placeholders have been replaced before. -/
  count : Nat
  /-- The random words that are left. -/
  words : Words
  segment : Segment
  written : List Char

namespace Engine

/-- When `count` placeholders have been replaced before, a body is answered by an expression: the
    limit is not reached, the body reads as a call, and the expression is what the identifier of the
    call resolves to. -/
def Answers (e : Engine) (count : Nat) (body : List Char) (call : Call) (x : Expression) : Prop :=
  count < e.limits.expansions ∧ Call.ofBody e.delimiters body = .ok call ∧
    e.registry.resolve call.identifier = some x

/-- The visits of a render: how many placeholders have been replaced before the first of them and
    with which random words it begins, and the same behind the last. -/
inductive Visits (e : Engine) (world : World) :
    Nat → Words → List Visit → Nat → Words → Prop
  | nil {count : Nat} {words : Words} : Visits e world count words [] count words
  | copied {count : Nat} {words : Words} {segment : Segment} {rest : List Visit} {count' : Nat}
      {words' : Words} (hsegment : segment.isPlaceholder = false)
      (hrest : Visits e world count words rest count' words') :
      Visits e world count words (⟨count, words, segment, segment.text⟩ :: rest) count' words'
  | replaced {count : Nat} {words : Words} {raw body : List Char} {call : Call} {x : Expression}
      {rest : List Visit} {count' : Nat} {words' : Words}
      (hanswers : e.Answers count body call x)
      (hrest : Visits e world (count + 1) (x.generate world call words).words rest count' words') :
      Visits e world count words
        (⟨count, words, .placeholder raw body, (x.generate world call words).value.toList⟩ :: rest)
        count' words'
  | left {count : Nat} {words : Words} {raw body : List Char} {rest : List Visit} {count' : Nat}
      {words' : Words} (hanswers : ∀ call x, ¬ e.Answers count body call x)
      (hrest : Visits e world count words rest count' words') :
      Visits e world count words (⟨count, words, .placeholder raw body, raw⟩ :: rest) count' words'

end Engine

namespace Visit

/-- The identifier of a placeholder that is reached below the limit and reads as a call, but that
    nothing answers to. -/
def unknown? (e : Engine) (v : Visit) : Option String :=
  match v.segment with
  | .placeholder _ body =>
    match Call.ofBody e.delimiters body with
    | .ok call =>
      if v.count < e.limits.expansions ∧ e.registry.resolve call.identifier = none then
        some call.identifier
      else none
    | .error _ => none
  | _ => none

/-- The segment is a placeholder that is reached below the limit and does not read as a call. -/
def isMalformed (e : Engine) (v : Visit) : Bool :=
  match v.segment with
  | .placeholder _ body =>
    decide (v.count < e.limits.expansions) && !(Call.ofBody e.delimiters body).toBool
  | _ => false

/-- The segment is a placeholder that is reached when the limit has been. -/
def isSkipped (e : Engine) (v : Visit) : Bool :=
  v.segment.isPlaceholder && decide (e.limits.expansions ≤ v.count)

end Visit

/-! ### What can become of a placeholder -/

namespace Engine

variable {e : Engine} {world : World}

/-- What becomes of a placeholder, when `count` have been replaced before. -/
def settle (e : Engine) (world : World) (count : Nat) (words : Words) (body : List Char) :
    Outcome × Words :=
  if e.limits.expansions ≤ count then (.skipped, words) else e.expand world words body

/-- The four fates of a placeholder, each with all that leads to it. -/
inductive Becomes (e : Engine) (world : World) (count : Nat) (words : Words) (body : List Char) :
    Outcome → Words → Prop
  | skipped (hlimit : e.limits.expansions ≤ count) : Becomes e world count words body .skipped words
  | malformed {error : BodyError} (hlimit : count < e.limits.expansions)
      (hread : Call.ofBody e.delimiters body = .error error) :
      Becomes e world count words body (.malformed error) words
  | unknown {call : Call} (hlimit : count < e.limits.expansions)
      (hread : Call.ofBody e.delimiters body = .ok call)
      (hresolve : e.registry.resolve call.identifier = none) :
      Becomes e world count words body (.unknown call.identifier) words
  | substituted {call : Call} {x : Expression} (hanswers : e.Answers count body call x) :
      Becomes e world count words body
        (.substituted x.identifier (x.generate world call words).value
          (x.generate world call words).records)
        (x.generate world call words).words

theorem becomes_settle (e : Engine) (world : World) (count : Nat) (words : Words)
    (body : List Char) :
    Becomes e world count words body (e.settle world count words body).1
      (e.settle world count words body).2 := by
  simp only [settle]
  split
  · next hlimit => exact .skipped hlimit
  · next hlimit =>
    have hlimit := Nat.lt_of_not_le hlimit
    simp only [expand]
    split
    · next error hread => exact .malformed hlimit hread
    · next call hread =>
      split
      · next hresolve => exact .unknown hlimit hread hresolve
      · next x hresolve => exact .substituted ⟨hlimit, hread, hresolve⟩

/-! ### The pieces, one by one -/

theorem pieces_copied {cut : Cut} (h : cut.segment.isPlaceholder = false) (count : Nat)
    (words : Words) (rest : List Cut) :
    e.pieces world count words (cut :: rest) =
      ⟨.copied cut :: (e.pieces world count words rest).pieces,
        (e.pieces world count words rest).words⟩ := by
  rw [pieces]
  split
  · next hsegment => cases hsegment ▸ h
  · rfl

theorem pieces_placeholder {cut : Cut} {raw body : List Char}
    (h : cut.segment = .placeholder raw body) (count : Nat) (words : Words) (rest : List Cut) :
    e.pieces world count words (cut :: rest) =
      let outcome := (e.settle world count words body).1
      let more := e.pieces world (if outcome.isSubstituted then count + 1 else count)
        (e.settle world count words body).2 rest
      ⟨.placeholder raw outcome :: more.pieces, more.words⟩ := by
  rw [pieces, h]
  rfl

/-- A piece shows a visit: it has the same text, and it is counted in the same places. -/
structure Shows (e : Engine) (v : Visit) (p : Piece) : Prop where
  text : v.written = p.text
  placeholder : v.segment.isPlaceholder = p.isPlaceholder
  escaped : v.segment.isEscaped = p.isEscaped
  unterminated : v.segment.isUnterminated = p.isUnterminated
  unknown : v.unknown? e = p.unknown?
  malformed : v.isMalformed e = p.isMalformed
  skipped : v.isSkipped e = p.isSkipped

theorem shows_copied {cut : Cut} (h : cut.segment.isPlaceholder = false) (count : Nat)
    (words : Words) : Shows e ⟨count, words, cut.segment, cut.segment.text⟩ (.copied cut) := by
  obtain ⟨segment, overlong⟩ := cut
  cases segment with
  | placeholder raw body => cases h
  | _ => exact ⟨rfl, rfl, rfl, rfl, rfl, rfl, rfl⟩

/-- Of a placeholder without an answer, only the source is written. -/
theorem shows_left {count : Nat} {words words' : Words} {raw body : List Char} {outcome : Outcome}
    (h : Becomes e world count words body outcome words') (hno : outcome.isSubstituted = false) :
    words' = words ∧ (∀ call x, ¬ e.Answers count body call x) ∧
      Shows e ⟨count, words, .placeholder raw body, raw⟩ (.placeholder raw outcome) := by
  cases h with
  | skipped hlimit =>
    refine ⟨rfl, fun call x hx => absurd hx.1 (Nat.not_lt.2 hlimit), rfl, rfl, rfl, rfl, ?_, ?_, ?_⟩
    · simp [Visit.unknown?, Piece.unknown?, Nat.not_lt.2 hlimit]
      split <;> rfl
    · simp [Visit.isMalformed, Piece.isMalformed, Nat.not_lt.2 hlimit]
    · simp [Visit.isSkipped, Piece.isSkipped, Segment.isPlaceholder, hlimit]
  | malformed hlimit hread =>
    refine ⟨rfl, ?_, rfl, rfl, rfl, rfl, ?_, ?_, ?_⟩
    · intro call x hx
      cases hread.symm.trans hx.2.1
    · simp [Visit.unknown?, Piece.unknown?, hread]
    · simp [Visit.isMalformed, Piece.isMalformed, hlimit, hread, Except.toBool]
    · simp [Visit.isSkipped, Piece.isSkipped, Segment.isPlaceholder, Nat.not_le.2 hlimit]
  | @unknown call hlimit hread hresolve =>
    refine ⟨rfl, ?_, rfl, rfl, rfl, rfl, ?_, ?_, ?_⟩
    · intro call' x hx
      obtain ⟨-, hread', hresolve'⟩ := hx
      obtain rfl := Except.ok.inj (hread.symm.trans hread')
      cases hresolve.symm.trans hresolve'
    · simp [Visit.unknown?, Piece.unknown?, hlimit, hread, hresolve]
    · simp [Visit.isMalformed, Piece.isMalformed, hread, Except.toBool]
    · simp [Visit.isSkipped, Piece.isSkipped, Segment.isPlaceholder, Nat.not_le.2 hlimit]
  | substituted hanswers => cases hno

/-- Of a placeholder with an answer, the answer is written. -/
theorem shows_replaced {count : Nat} {words words' : Words} {raw body : List Char}
    {outcome : Outcome} (h : Becomes e world count words body outcome words')
    (hyes : outcome.isSubstituted = true) :
    ∃ call x, e.Answers count body call x ∧ words' = (x.generate world call words).words ∧
      Shows e ⟨count, words, .placeholder raw body, (x.generate world call words).value.toList⟩
        (.placeholder raw outcome) := by
  cases h with
  | substituted hanswers =>
    have ⟨hlimit, hread, hresolve⟩ := hanswers
    refine ⟨_, _, hanswers, rfl, rfl, rfl, rfl, rfl, ?_, ?_, ?_⟩
    · simp [Visit.unknown?, Piece.unknown?, hread, hresolve]
    · simp [Visit.isMalformed, Piece.isMalformed, hread, Except.toBool]
    · simp [Visit.isSkipped, Piece.isSkipped, Segment.isPlaceholder, Nat.not_le.2 hlimit]
  | _ => cases hyes

/-! ### A whole render -/

/-- The pieces of a render show its visits, one by one, and count what it has replaced. -/
theorem exists_visits (e : Engine) (world : World) (cuts : List Cut) (count : Nat)
    (words : Words) :
    ∃ visits : List Visit,
      visits.map Visit.segment = cuts.map Cut.segment ∧
      Visits e world count words visits
        (count + (e.pieces world count words cuts).pieces.countP Piece.isSubstituted)
        (e.pieces world count words cuts).words ∧
      List.Forall₂ (Shows e) visits (e.pieces world count words cuts).pieces := by
  induction cuts generalizing count words with
  | nil => exact ⟨[], rfl, .nil, .nil⟩
  | cons cut rest ih =>
    by_cases hplace : cut.segment.isPlaceholder = false
    · obtain ⟨visits, hmap, hvisits, hshows⟩ := ih count words
      rw [pieces_copied hplace]
      exact ⟨⟨count, words, cut.segment, cut.segment.text⟩ :: visits, by simp [hmap],
        .copied hplace hvisits, .cons (shows_copied hplace count words) hshows⟩
    · rw [Bool.not_eq_false] at hplace
      obtain ⟨raw, body, hsegment⟩ := Segment.exists_of_isPlaceholder hplace
      have hbecomes := becomes_settle e world count words body
      rw [pieces_placeholder hsegment]
      by_cases hsub : (e.settle world count words body).1.isSubstituted = true
      · -- an answer: the rest begins with one more replacement and the words the answer leaves
        obtain ⟨call, x, hanswers, hwords, hshow⟩ := shows_replaced hbecomes hsub
        obtain ⟨visits, hmap, hvisits, hshows⟩ :=
          ih (count + 1) (e.settle world count words body).2
        simp only [hsub, if_true]
        refine ⟨_ :: visits, by simp [hmap, hsegment], ?_, .cons hshow hshows⟩
        rw [List.countP_cons_of_pos (by exact hsub), ← Nat.add_assoc, Nat.add_right_comm]
        rw [hwords] at hvisits ⊢
        exact .replaced hanswers hvisits
      · -- no answer: the rest begins as the placeholder did
        have hsub := Bool.eq_false_iff.2 hsub
        obtain ⟨hwords, hanswers, hshow⟩ := shows_left hbecomes hsub
        obtain ⟨visits, hmap, hvisits, hshows⟩ := ih count (e.settle world count words body).2
        simp only [hsub, Bool.false_eq_true, if_false]
        refine ⟨_ :: visits, by simp [hmap, hsegment], ?_, .cons hshow hshows⟩
        rw [List.countP_cons_of_neg (by simpa [Piece.isSubstituted] using hsub)]
        rw [hwords] at hvisits ⊢
        exact .left hanswers hvisits

theorem Visits.count_le {count count' : Nat} {words words' : Words} {visits : List Visit}
    (h : Visits e world count words visits count' words') : count ≤ count' := by
  induction h with
  | nil => exact Nat.le_refl _
  | copied _ _ ih => exact ih
  | replaced _ _ ih => exact Nat.le_of_succ_le ih
  | left _ _ ih => exact ih

/-- If no placeholder is replaced, every segment is written as its own text. -/
theorem Visits.written_eq_text {count count' : Nat} {words words' : Words} {visits : List Visit}
    (h : Visits e world count words visits count' words') (hcount : count' = count) :
    ∀ v ∈ visits, v.written = v.segment.text := by
  induction h with
  | nil => exact List.forall_mem_nil _
  | copied _ _ ih => exact List.forall_mem_cons.2 ⟨rfl, ih hcount⟩
  | replaced _ hrest _ =>
    have := hrest.count_le
    omega
  | left _ _ ih => exact List.forall_mem_cons.2 ⟨rfl, ih hcount⟩

/-- Every placeholder is counted in exactly one place. -/
theorem countP_placeholder (pieces : List Piece) :
    pieces.countP Piece.isPlaceholder =
      pieces.countP Piece.isSubstituted + (pieces.filterMap Piece.unknown?).length +
        pieces.countP Piece.isMalformed + pieces.countP Piece.isSkipped := by
  induction pieces with
  | nil => rfl
  | cons p rest ih =>
    simp only [List.countP_cons, List.filterMap_cons, ih]
    cases p with
    | copied cut =>
      simp only [Piece.isPlaceholder, Piece.isSubstituted, Piece.unknown?, Piece.isMalformed,
        Piece.isSkipped, Bool.false_eq_true, if_false, Nat.add_zero]
    | placeholder raw outcome =>
      cases outcome <;>
        simp [Piece.isPlaceholder, Piece.isSubstituted, Outcome.isSubstituted, Piece.unknown?,
          Piece.isMalformed, Piece.isSkipped] <;> omega

end Engine

/-! ### The report -/

/-- What a report says is what the visits say. -/
structure Report.Fits (e : Engine) (visits : List Visit) (r : Report) : Prop where
  escaped : r.escaped = visits.countP (·.segment.isEscaped)
  unterminated : r.unterminated = true ↔ ∃ v ∈ visits, v.segment.isUnterminated = true
  balance : visits.countP (·.segment.isPlaceholder) =
    r.substituted + r.unknown.length + r.malformed + r.skipped
  unknown : r.unknown = visits.filterMap (Visit.unknown? e)
  malformed : r.malformed = visits.countP (Visit.isMalformed e)
  skipped : r.skipped = visits.countP (Visit.isSkipped e)

section Report

variable {e : Engine} {visits : List Visit} {pieces : List Piece}

theorem map_eq_of_shows {α : Type} {f : Visit → α} {g : Piece → α}
    (hfg : ∀ v p, e.Shows v p → f v = g p) (h : List.Forall₂ e.Shows visits pieces) :
    visits.map f = pieces.map g := by
  induction h with
  | nil => rfl
  | cons hshow _ ih => rw [List.map_cons, List.map_cons, hfg _ _ hshow, ih]

theorem countP_eq_of_shows {f : Visit → Bool} {g : Piece → Bool}
    (hfg : ∀ v p, e.Shows v p → f v = g p) (h : List.Forall₂ e.Shows visits pieces) :
    visits.countP f = pieces.countP g := by
  have hmap := congrArg (List.countP id) (map_eq_of_shows hfg h)
  simpa only [List.countP_map, Function.id_comp] using hmap

theorem fits_of_shows (h : List.Forall₂ e.Shows visits pieces) :
    (Report.ofPieces pieces).Fits e visits where
  escaped := (countP_eq_of_shows (fun _ _ hs => hs.escaped) h).symm
  unterminated := by
    have hmap := map_eq_of_shows (fun _ _ hs => hs.unterminated) h
    have hany := congrArg (List.any · id) hmap
    simp only [List.any_map, Function.id_comp] at hany
    rw [Report.ofPieces, ← hany, List.any_eq_true]
  balance := by
    rw [countP_eq_of_shows (fun _ _ hs => hs.placeholder) h, Engine.countP_placeholder]
    rfl
  unknown := by
    have hmap := congrArg (List.filterMap id) (map_eq_of_shows (fun _ _ hs => hs.unknown) h)
    simp only [List.filterMap_map, Function.id_comp] at hmap
    exact hmap.symm
  malformed := (countP_eq_of_shows (fun _ _ hs => hs.malformed) h).symm
  skipped := (countP_eq_of_shows (fun _ _ hs => hs.skipped) h).symm

end Report

/-- **Rendering is a splice, and its report balances.** The visits of a render are the segments of
    the template in order. Its output is what is written for them, one behind the other; the count
    behind the last of them is the number of replacements, and all else in the report is read off
    them too. So a template of which nothing was replaced, and in which nothing was escaped, is its
    own output. -/
theorem render_splices (e : Engine) (world : World) (words : Words) (template : String) :
    ∃ visits : List Visit,
      visits.map Visit.segment =
        segments e.delimiters e.limits.bodyLength template.toList ∧
      e.Visits world 0 words visits (e.render world words template).report.substituted
        (e.render world words template).words ∧
      (e.render world words template).output = String.ofList (visits.flatMap Visit.written) ∧
      (e.render world words template).report.Fits e visits ∧
      ((e.render world words template).report.substituted = 0 →
        (e.render world words template).report.escaped = 0 →
        (e.render world words template).output = template) := by
  obtain ⟨visits, hsegments, hvisits, hshows⟩ := e.exists_visits world
    (cuts e.delimiters e.limits.bodyLength template.toList) 0 words
  rw [Nat.zero_add] at hvisits
  have hfits := fits_of_shows hshows
  have houtput : (e.render world words template).output =
      String.ofList (visits.flatMap Visit.written) := by
    have hmap := map_eq_of_shows (fun _ _ hs => hs.text) hshows
    rw [List.flatMap_def, hmap, ← List.flatMap_def]
    rfl
  refine ⟨visits, hsegments, hvisits, houtput, hfits, ?_⟩
  intro hnone hescaped
  -- with nothing replaced and nothing escaped, every segment is written as it stands
  have htext : ∀ v ∈ visits, v.written = v.segment.source e.delimiters := by
    intro v hv
    have hno : v.segment.isEscaped = false := by
      have := List.countP_eq_zero.1 (hfits.escaped.symm.trans hescaped) v hv
      simpa using this
    rw [Segment.source_eq_text _ hno]
    exact hvisits.written_eq_text hnone v hv
  have hsource : visits.flatMap Visit.written = template.toList := by
    calc visits.flatMap Visit.written
        = (visits.map Visit.segment).flatMap (Segment.source e.delimiters) := by
          rw [List.flatMap_map, List.flatMap_def, List.flatMap_def, List.map_congr_left htext]
      _ = template.toList := by
          rw [hsegments]
          exact Scan.flatMap_source_segments e.delimiters e.limits.bodyLength _
  rw [houtput, hsource, String.ofList_toList]

end Stencil
