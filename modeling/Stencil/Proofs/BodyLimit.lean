import Stencil.Proofs.Borders

/-!
# Long bodies

A smaller limit for bodies takes placeholders away and does nothing else: those with longer bodies
become literals (`Segment.capped`).

The two cuttings part at a body that is too long for one of them. One goes on behind the closing
delimiter, the other one directly behind the opening delimiter. No opening delimiter begins before
the closing one, so both come to the same next one (`Delimiters.plain_of_close`). What they see in
front of it differs, and an escape could begin in the part that only one of them sees. It would hold
the last character of the closing delimiter, and such escapes are excluded.
-/

namespace Stencil

open Text

/-- A placeholder is a literal if its body has more bytes than `limit`; all else stays. -/
def Segment.capped (limit : Nat) : Segment → Segment
  | .placeholder raw body =>
    if byteLength body ≤ limit then .placeholder raw body else .literal raw
  | s => s

namespace Delimiters

variable {d : Delimiters} {limit limit' : Nat} {after body rest : List Char}

/-! ### Behind a closed placeholder -/

theorem length_window_le {b a : List Char} (hopening : d.opening.toList ≠ [])
    (hs : after = b ++ d.opening.toList ++ a) : (d.window after).1.length ≤ b.length := by
  unfold window
  cases hopen : d.findOpening after with
  | none =>
    have hfree := (findOpening_eq_none_iff.1 hopen).resolve_left hopening
    exact absurd ⟨b, a, hs.symm⟩ hfree
  | some p => exact (findOpening_eq_some_iff.1 hopen).2.earliest b a hs

theorem not_suffix_of_close {u : List Char}
    (hescape : ∀ c ∈ d.closing.toList.getLast?, c ∉ u)
    (hclose : d.findClosing (d.window after).1 = some (body, rest)) (hu : u ≠ []) :
    ¬ u <:+ body ++ d.closing.toList := by
  intro hsuffix
  by_cases hclosing : d.closing.toList = []
  · have hfirst := findClosing_eq_some_iff.1 hclose
    rw [hclosing] at hfirst hsuffix
    have hempty : body = [] :=
      List.length_eq_zero_iff.1 (Nat.le_zero.1 (hfirst.earliest [] _ rfl))
    rw [hempty] at hsuffix
    exact hu (List.suffix_nil.1 hsuffix)
  · obtain ⟨p, hp⟩ := hsuffix
    have hlast := congrArg List.getLast? hp
    rw [List.getLast?_append_of_ne_nil _ hu, List.getLast?_append_of_ne_nil _ hclosing] at hlast
    obtain ⟨c, hc⟩ := Option.isSome_iff_exists.1 (List.getLast?_isSome.2 hclosing)
    exact hescape c hc (List.mem_of_getLast? (hlast.trans hc))

/-- A body with its closing delimiter is plain text in front of what comes behind it. -/
theorem plain_of_close (hopening : d.opening.toList ≠ [])
    (hescape : ∀ c ∈ d.closing.toList.getLast?, c ∉ d.escapeText)
    (hclose : d.findClosing (d.window after).1 = some (body, rest)) :
    d.Plain (body ++ d.closing.toList) (rest ++ (d.window after).2) where
  opening b a hs := by
    have hwindow := findClosing_append hclose
    have hall := d.window_append after
    rw [hwindow, List.append_assoc _ rest] at hall
    have hle := length_window_le hopening (hall.symm.trans hs)
    rw [hwindow, List.length_append] at hle
    omega
  escape before next _ hx := by
    apply suffix_of_sealed _ hx
    intro u v hsplit hu
    apply not_suffix_of_close _ hclose hu
    intro c hc hmem
    apply hescape c hc
    rw [hsplit]
    exact List.mem_append_left v hmem

/-! ### One delimiter under two limits -/

/-- What the larger limit decides, the smaller one decides too, up to the capping. -/
theorem Judged.joined_capped {segment : Segment} {next : Option (List Char)}
    (h : d.Judged limit' after segment next) (hlimit : limit ≤ limit')
    (hopening : d.opening.toList ≠ [])
    (hescape : ∀ c ∈ d.closing.toList.getLast?, c ∉ d.escapeText) :
    joined (judgedSegments d limit after) =
      joined (segment.capped limit :: (next.map (simpleSegments d limit)).getD []) := by
  cases h with
  | @closed body rest hclose hlong =>
    by_cases hshort : byteLength body ≤ limit
    · have hjudged : d.Judged limit after _ _ := .closed hclose hshort
      rw [hjudged.judgedSegments_eq, Segment.capped, if_pos hshort]
    · -- the smaller limit goes on in front of the body, and passes it as text
      have hjudged : d.Judged limit after _ _ := .overlong hclose (Nat.lt_of_not_le hshort)
      have hplain := plain_of_close hopening hescape hclose
      have hall := d.window_append after
      rw [findClosing_append hclose, List.append_assoc _ rest] at hall
      have hpassed := hplain.joined_simpleSegments limit
      rw [hall] at hpassed
      rw [hjudged.judgedSegments_eq, Segment.capped, if_neg hshort, List.append_assoc,
        joined_literal_append]
      exact joined_cons_congr _ hpassed
  | overlong hclose hlong =>
    have hjudged : d.Judged limit after _ _ := .overlong hclose (Nat.lt_of_le_of_lt hlimit hlong)
    rw [hjudged.judgedSegments_eq]
    rfl
  | restarted hclose hopen =>
    have hjudged : d.Judged limit after _ _ := .restarted hclose hopen
    rw [hjudged.judgedSegments_eq]
    rfl
  | unterminated hclose hopen =>
    have hjudged : d.Judged limit after _ _ := .unterminated hclose hopen
    rw [hjudged.judgedSegments_eq]
    rfl

end Delimiters

/-! ### Whole templates -/

theorem joined_simpleSegments_capped {d : Delimiters} {limit limit' : Nat} (hlimit : limit ≤ limit')
    (hescape : ∀ c ∈ d.closing.toList.getLast?, c ∉ d.escapeText) (s : List Char) :
    joined (simpleSegments d limit s) =
      joined ((simpleSegments d limit' s).map (Segment.capped limit)) := by
  induction s using simpleSegments_induction d limit' with
  | rest s hopen =>
    rw [simpleSegments_of_none hopen]
    rfl
  | escaped s before after kept hopen hbefore ih =>
    rw [simpleSegments_of_escape hopen hbefore]
    exact joined_cons_congr _ (joined_cons_congr _ ih)
  | judged s before after segment next hopen hbefore hjudged ih =>
    have hopening := (Delimiters.findOpening_eq_some_iff.1 hopen).1
    rw [simpleSegments_of_opening hopen hbefore]
    apply joined_cons_congr
    rw [hjudged.joined_capped hlimit hopening hescape]
    apply joined_cons_congr
    cases next with
    | none => rfl
    | some r => exact ih r rfl

/-- **The limit of bodies is a filter.** Let no escape hold the last character of the closing
    delimiter, as is so with the usual punctuation. Then the segments under a smaller limit are
    those under a larger one, except that the placeholders whose bodies have more bytes than the
    smaller limit are literals. On both sides literals that lie side by side are joined. -/
theorem joined_segments_capped {d : Delimiters} {limit limit' : Nat} (hlimit : limit ≤ limit')
    (hescape : ∀ c ∈ d.closing.toList.getLast?, c ∉ d.escapeText) (template : List Char) :
    joined (segments d limit template) =
      joined ((joined (segments d limit' template)).map (Segment.capped limit)) := by
  have hmap := seamless_map (f := Segment.capped limit) fun _ => rfl
  calc joined (segments d limit template)
      = joined (simpleSegments d limit template) := Scan.joined_segments d limit (.text template)
    _ = joined ((simpleSegments d limit' template).map (Segment.capped limit)) :=
        joined_simpleSegments_capped hlimit hescape template
    _ = joined ((segments d limit' template).map (Segment.capped limit)) :=
        hmap.read_congr (Scan.joined_segments d limit' (.text template)).symm
    _ = joined ((joined (segments d limit' template)).map (Segment.capped limit)) :=
        (hmap.read_joined _).symm

/-- A long body with an escape behind its closing delimiter, and a short one. -/
theorem joined_segments_capped_long :
    4 ≤ 1024 ∧
      (∀ c ∈ Delimiters.standard.closing.toList.getLast?, c ∉ Delimiters.standard.escapeText) ∧
      joined (segments .standard 4 "$\x7bABCDEF\x7d$$\x7b$\x7bOK\x7d".toList) =
        [.literal "$\x7bABCDEF\x7d".toList, .escaped "$\x7b".toList,
          .placeholder "$\x7bOK\x7d".toList "OK".toList] := by
  have hlimit : 4 ≤ 1024 := by decide
  have hescape : ∀ c ∈ Delimiters.standard.closing.toList.getLast?,
      c ∉ Delimiters.standard.escapeText := by
    intro c hc
    obtain rfl : '\x7d' = c := Option.some.inj hc
    decide
  have hlarge : (joined (segments .standard 1024 "$\x7bABCDEF\x7d$$\x7b$\x7bOK\x7d".toList)).map
      (Segment.capped 4) =
        [.literal "$\x7bABCDEF\x7d".toList, .escaped "$\x7b".toList,
          .placeholder "$\x7bOK\x7d".toList "OK".toList] := by decide +kernel
  refine ⟨hlimit, hescape, ?_⟩
  rw [joined_segments_capped hlimit hescape, hlarge]
  rfl

end Stencil
