import Stencil.Proofs.Delivery
import Stencil.Proofs.Recognition
import Stencil.Proofs.SimpleRule

/-!
# Every text can be written

A text in which opening delimiters lie becomes a template for itself when an escape is put in front
of each of them (`Delimiters.escaped`), from left to right and without overlaps. This asks of the
escape that it is seen behind every text (`Delimiters.Escapable`): no opening delimiter may begin
in front of the one that is escaped, be it in the escape or in the text before it.

Then the cutting meets every delimiter behind its escape, and there is no placeholder at all. What a
render makes of a template without placeholders does not depend on what is registered
(`Engine.render_of_copied`).
-/

namespace Stencil

open Text

/-! ### Escaping a text -/

namespace Delimiters

variable {d : Delimiters} {t before after : List Char}

/-- What lies in front of each opening delimiter of a text, each looked for behind the one before,
    and what lies behind the last. -/
def dissect (d : Delimiters) (t : List Char) : List (List Char) × List Char :=
  match _h : d.findOpening t with
  | none => ([], t)
  | some (before, after) => (before :: (d.dissect after).1, (d.dissect after).2)
termination_by t.length
decreasing_by all_goals exact length_findOpening_lt _h

/-- A text with the escape in front of each opening delimiter. -/
def escaped (d : Delimiters) (t : List Char) : List Char :=
  (d.dissect t).1.flatMap (fun before => before ++ d.escapeText ++ d.opening.toList) ++
    (d.dissect t).2

/-- The escape is seen behind every text without opening delimiters. -/
structure Escapable (d : Delimiters) : Prop where
  opening : d.opening.toList ≠ []
  escape : d.escapeText ≠ []
  seen : ∀ p, ¬ d.opening.toList <:+: p →
    FirstAt d.opening.toList (p ++ d.escapeText ++ d.opening.toList) (p ++ d.escapeText) []

theorem dissect_of_none (h : d.findOpening t = none) : d.dissect t = ([], t) := by
  rw [dissect]
  split
  · rfl
  · next hsome => cases h.symm.trans hsome

theorem dissect_of_some (h : d.findOpening t = some (before, after)) :
    d.dissect t = (before :: (d.dissect after).1, (d.dissect after).2) := by
  rw [dissect]
  split
  · next hnone => cases h.symm.trans hnone
  · next before' after' hsome =>
    obtain ⟨rfl, rfl⟩ := Prod.mk.inj (Option.some.inj (h.symm.trans hsome))
    rfl

theorem escaped_of_none (h : d.findOpening t = none) : d.escaped t = t := by
  rw [escaped, dissect_of_none h]
  rfl

theorem escaped_of_some (h : d.findOpening t = some (before, after)) :
    d.escaped t = before ++ d.escapeText ++ d.opening.toList ++ d.escaped after := by
  rw [escaped, dissect_of_some h, List.flatMap_cons, List.append_assoc]
  rfl

/-- The parts of a text with the delimiters between them are the text. -/
theorem flatMap_dissect (d : Delimiters) (t : List Char) :
    (d.dissect t).1.flatMap (fun before => before ++ d.opening.toList) ++ (d.dissect t).2 = t := by
  fun_induction dissect d t with
  | case1 t h => rfl
  | case2 t before after h ih =>
    rw [List.flatMap_cons, List.append_assoc, ih]
    exact (findOpening_append h).symm

theorem escapable_standard : standard.Escapable := by
  refine ⟨by decide, by decide, ?_⟩
  intro p hp
  apply FirstAt.of_dropLast
  have hopening : standard.opening.toList = ['$', '\x7b'] := rfl
  have hescape : standard.escapeText = ['$'] := rfl
  rw [hopening, not_infix_pair_iff] at hp
  -- up to the last character there are only dollar signs behind `p`
  have hdrop : (p ++ ['$'] ++ ['$', '\x7b']).dropLast = p ++ ['$', '$'] := by
    rw [List.append_assoc, List.dropLast_append_of_ne_nil (by simp)]
    rfl
  rw [hopening, hescape, hdrop, not_infix_pair_iff]
  refine hp.append (by decide) ?_
  rintro x - y hy ⟨-, rfl⟩
  exact absurd (Option.some.inj hy) (by decide)

theorem Escapable.seesEscape (hd : d.Escapable) : d.SeesEscape :=
  ⟨hd.escape, hd.seen [] (mt List.infix_nil.1 hd.opening)⟩

theorem Escapable.findOpening (hd : d.Escapable) (hbefore : ¬ d.opening.toList <:+: before)
    (rest : List Char) :
    d.findOpening (before ++ d.escapeText ++ d.opening.toList ++ rest) =
      some (before ++ d.escapeText, rest) :=
  findOpening_eq_some_iff.2 ⟨hd.opening, (hd.seen before hbefore).append rest⟩

theorem Escapable.beforeEscape (hd : d.Escapable) (before : List Char) :
    d.beforeEscape (before ++ d.escapeText) = some before :=
  beforeEscape_eq_some_iff.2 ⟨hd.escape, rfl⟩

end Delimiters

/-! ### Cutting an escaped text -/

/-- A text as a segment, unless it is empty. -/
def literals (t : List Char) : List Segment := if t = [] then [] else [.literal t]

/-- The parts of a text and the delimiters between them as segments. -/
def Delimiters.dissectSegments (d : Delimiters) (t : List Char) : List Segment :=
  (d.dissect t).1.flatMap (fun before => literals before ++ [.escaped d.opening.toList]) ++
    literals (d.dissect t).2

namespace Scan

variable {d : Delimiters} {limit : Nat} {before : List Char}

theorem segments_before_escape (hd : d.Escapable) (limit : Nat)
    (hbefore : ¬ d.opening.toList <:+: before) (rest : List Char) :
    segments d limit (.text (before ++ d.escapeText ++ d.opening.toList ++ rest)) =
      literals before ++ .escaped d.opening.toList :: segments d limit (.text rest) := by
  cases before with
  | nil => exact segments_at_escape hd.seesEscape limit rest
  | cons c before =>
    -- the text in front of the escape is cut off first, and the escape is met again
    have hopen := hd.findOpening hbefore rest
    have hescape := hd.beforeEscape (c :: before)
    rw [segments_text d limit (by simp), inText, hopen]
    simp only [hescape]
    change _ :: segments d limit (.text (d.escapeText ++ d.opening.toList ++ rest)) = _
    rw [segments_at_escape hd.seesEscape]
    rfl

theorem segments_of_findOpening_none {s : List Char} (h : d.findOpening s = none) :
    segments d limit (.text s) = literals s := by
  by_cases hs : s = []
  · subst hs
    exact segments_text_nil d limit
  · rw [segments_text d limit hs, inText, h, literals, if_neg hs]
    exact congrArg (_ :: ·) (segments_done d limit)

theorem segments_escaped (hd : d.Escapable) (limit : Nat) (t : List Char) :
    segments d limit (.text (d.escaped t)) = d.dissectSegments t := by
  fun_induction Delimiters.dissect d t with
  | case1 t h =>
    rw [Delimiters.escaped_of_none h, segments_of_findOpening_none h, Delimiters.dissectSegments,
      Delimiters.dissect_of_none h]
    rfl
  | case2 t before after h ih =>
    have hbefore := (Delimiters.findOpening_eq_some_iff.1 h).2.not_infix_before hd.opening
    rw [Delimiters.escaped_of_some h, segments_before_escape hd limit hbefore, ih,
      Delimiters.dissectSegments, Delimiters.dissectSegments, Delimiters.dissect_of_some h]
    simp only [List.flatMap_cons, List.append_assoc, List.cons_append, List.nil_append]

end Scan

theorem flatMap_text_literals (t : List Char) : (literals t).flatMap Segment.text = t := by
  by_cases h : t = []
  · rw [literals, if_pos h, h]
    rfl
  · rw [literals, if_neg h, List.flatMap_singleton]
    rfl

theorem countP_isEscaped_literals (t : List Char) :
    (literals t).countP Segment.isEscaped = 0 := by
  rw [literals]
  split <;> rfl

theorem eq_literal_of_mem_literals {t : List Char} {s : Segment} (h : s ∈ literals t) :
    s = .literal t := by
  rw [literals] at h
  split at h
  · cases h
  · exact List.mem_singleton.1 h

namespace Delimiters

variable {d : Delimiters} {t : List Char} {s : Segment}

theorem eq_of_mem_dissectSegments (h : s ∈ d.dissectSegments t) :
    (∃ u, s = .literal u) ∨ s = .escaped d.opening.toList := by
  rw [dissectSegments, List.mem_append, List.mem_flatMap] at h
  rcases h with ⟨before, -, h⟩ | h
  · rcases List.mem_append.1 h with h | h
    · exact .inl ⟨before, eq_literal_of_mem_literals h⟩
    · exact .inr (List.mem_singleton.1 h)
  · exact .inl ⟨_, eq_literal_of_mem_literals h⟩

theorem flatMap_text_dissectSegments (d : Delimiters) (t : List Char) :
    (d.dissectSegments t).flatMap Segment.text = t := by
  rw [dissectSegments, List.flatMap_append, List.flatMap_assoc, flatMap_text_literals]
  simp only [List.flatMap_append, flatMap_text_literals, List.flatMap_singleton]
  exact d.flatMap_dissect t

theorem countP_isEscaped_dissectSegments (d : Delimiters) (t : List Char) :
    (d.dissectSegments t).countP Segment.isEscaped = (d.dissect t).1.length := by
  rw [dissectSegments, List.countP_append, countP_isEscaped_literals, Nat.add_zero]
  induction (d.dissect t).1 with
  | nil => rfl
  | cons before parts ih =>
    rw [List.flatMap_cons, List.countP_append, List.countP_append, countP_isEscaped_literals, ih,
      List.length_cons, Nat.zero_add, Nat.add_comm]
    rfl

end Delimiters

/-! ### Rendering without placeholders -/

namespace Engine

variable {e : Engine} {world : World} {template : String}

theorem pieces_of_copied {cuts : List Cut}
    (h : ∀ cut ∈ cuts, cut.segment.isPlaceholder = false) (count : Nat) (words : Words) :
    e.pieces world count words cuts = ⟨cuts.map .copied, words⟩ := by
  induction cuts with
  | nil => rfl
  | cons cut cuts ih =>
    obtain ⟨hcut, hcuts⟩ := List.forall_mem_cons.1 h
    rw [pieces_copied hcut, ih hcuts]
    rfl

theorem isEscaped_copied : Piece.isEscaped ∘ Piece.copied = Segment.isEscaped ∘ Cut.segment := by
  funext ⟨segment, overlong⟩
  cases segment <;> rfl

theorem isUnterminated_copied :
    Piece.isUnterminated ∘ Piece.copied = Segment.isUnterminated ∘ Cut.segment := by
  funext ⟨segment, overlong⟩
  cases segment <;> rfl

theorem ofPieces_copied (cuts : List Cut) :
    Report.ofPieces (cuts.map .copied) =
      { substituted := 0, unknown := [], malformed := 0, skipped := 0
        unterminated := (cuts.map Cut.segment).any Segment.isUnterminated
        escaped := (cuts.map Cut.segment).countP Segment.isEscaped } := by
  have hunknown : Piece.unknown? ∘ Piece.copied = fun _ => none := rfl
  have hno : ∀ p : Piece → Bool, (∀ cut, p (.copied cut) = false) →
      (cuts.map Piece.copied).countP p = 0 := by
    intro p hp
    rw [List.countP_eq_zero]
    intro piece hpiece
    obtain ⟨cut, -, rfl⟩ := List.mem_map.1 hpiece
    rw [hp]
    exact Bool.false_ne_true
  rw [Report.ofPieces, hno _ fun _ => rfl, hno _ fun _ => rfl, hno _ fun _ => rfl,
    List.filterMap_map, hunknown, List.filterMap_none, List.any_map, isUnterminated_copied,
    List.countP_map, isEscaped_copied, List.any_map, List.countP_map]

/-- A template without placeholders is copied, whatever is registered and at whatever limits. -/
theorem render_of_copied (world : World) (words : Words)
    (h : ∀ s ∈ segments e.delimiters e.limits.bodyLength template.toList,
      s.isPlaceholder = false) :
    (e.render world words template).output = String.ofList
      ((segments e.delimiters e.limits.bodyLength template.toList).flatMap Segment.text) ∧
    (e.render world words template).report =
      { substituted := 0, unknown := [], malformed := 0, skipped := 0
        unterminated := (segments e.delimiters e.limits.bodyLength template.toList).any
          Segment.isUnterminated
        escaped := (segments e.delimiters e.limits.bodyLength template.toList).countP
          Segment.isEscaped } := by
  have hcuts : ∀ cut ∈ cuts e.delimiters e.limits.bodyLength template.toList,
      cut.segment.isPlaceholder = false :=
    fun cut hcut => h cut.segment (List.mem_map_of_mem hcut)
  rw [render, pieces_of_copied hcuts, segments]
  constructor
  · rw [Rendering.output, List.flatMap_map, List.flatMap_map]
    rfl
  · exact ofPieces_copied _

end Engine

/-- **Every text can be written.** With an escape that is seen behind every text, and the usual one
    is, a text with the escape in front of its opening delimiters is rendered as itself. Nothing
    else happens, whatever is registered and whatever the limits are, and all delimiters are
    counted. -/
theorem render_escaped :
    Delimiters.standard.Escapable ∧
    ∀ (e : Engine) (world : World) (words : Words) (t : String), e.delimiters.Escapable →
      (e.render world words (String.ofList (e.delimiters.escaped t.toList))).output = t ∧
      (e.render world words (String.ofList (e.delimiters.escaped t.toList))).report =
        { substituted := 0, unknown := [], malformed := 0, unterminated := false, skipped := 0,
          escaped := (e.delimiters.dissect t.toList).1.length } ∧
      (e.render world words (String.ofList (e.delimiters.escaped t.toList))).report.isClean =
        true := by
  refine ⟨Delimiters.escapable_standard, ?_⟩
  intro e world words t hd
  have hsegments : segments e.delimiters e.limits.bodyLength
      (String.ofList (e.delimiters.escaped t.toList)).toList =
        e.delimiters.dissectSegments t.toList := by
    rw [String.toList_ofList]
    exact Scan.segments_escaped hd e.limits.bodyLength t.toList
  have hplaceholder : ∀ s ∈ e.delimiters.dissectSegments t.toList, s.isPlaceholder = false := by
    intro s hs
    rcases Delimiters.eq_of_mem_dissectSegments hs with ⟨u, rfl⟩ | rfl <;> rfl
  have hunterminated : (e.delimiters.dissectSegments t.toList).any Segment.isUnterminated =
      false := by
    rw [List.any_eq_false]
    intro s hs
    rcases Delimiters.eq_of_mem_dissectSegments hs with ⟨u, rfl⟩ | rfl <;> exact Bool.false_ne_true
  obtain ⟨houtput, hreport⟩ := Engine.render_of_copied world words (by rwa [hsegments])
  rw [hsegments, Delimiters.flatMap_text_dissectSegments, String.ofList_toList] at houtput
  rw [hsegments, hunterminated, Delimiters.countP_isEscaped_dissectSegments] at hreport
  refine ⟨houtput, hreport, ?_⟩
  rw [hreport]
  rfl

/-- Dollar signs in front of a delimiter, and one that nothing closes. -/
theorem render_escaped_dollars :
    Engine.chooser.delimiters.Escapable ∧
      (Engine.chooser.render ⟨0, ⟨[]⟩⟩ ⟨fun _ => 0, 0⟩ "$$$\x7ba\x7d$$\x7b").output =
        "$$\x7ba\x7d$\x7b" ∧
      (Engine.chooser.render ⟨0, ⟨[]⟩⟩ ⟨fun _ => 0, 0⟩ "$$$\x7ba\x7d$$\x7b").report.escaped =
        2 := by
  have hd : Engine.chooser.delimiters.Escapable := render_escaped.1
  obtain ⟨houtput, hreport, -⟩ :=
    render_escaped.2 Engine.chooser ⟨0, ⟨[]⟩⟩ ⟨fun _ => 0, 0⟩ "$$\x7ba\x7d$\x7b" hd
  have hescaped : String.ofList (Engine.chooser.delimiters.escaped "$$\x7ba\x7d$\x7b".toList) =
      "$$$\x7ba\x7d$$\x7b" := by decide +kernel
  have hcount : (Engine.chooser.delimiters.dissect "$$\x7ba\x7d$\x7b".toList).1.length = 2 := by
    decide +kernel
  rw [hescaped] at houtput hreport
  refine ⟨hd, houtput, ?_⟩
  rw [hreport]
  exact hcount

end Stencil
