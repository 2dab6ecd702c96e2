import Stencil.Proofs.BodyLimit
import Stencil.Proofs.Budget

/-!
# Templates behind templates

Two templates, one behind the other, are cut and rendered as each of them alone, if nothing begins
in the first one that could end in the second one. For the usual punctuation this asks two things of
the first template: it does not end with a dollar sign, and it leaves no placeholder open.

What is behind the first template makes the windows of its placeholders larger. That changes no
decision: a placeholder that is closed is closed in the same place (`Delimiters.Judged.append`), and
one that starts again does so before the second template begins.
-/

namespace Stencil

open Text

namespace Delimiters

variable {d : Delimiters} {limit : Nat} {s before after next : List Char} {segment : Segment}

/-! ### Decisions with more text behind them -/

theorem findOpening_append_right (hopen : d.findOpening s = some (before, after))
    (rest : List Char) : d.findOpening (s ++ rest) = some (before, after ++ rest) := by
  obtain ⟨hne, hfirst⟩ := findOpening_eq_some_iff.1 hopen
  exact findOpening_eq_some_iff.2 ⟨hne, hfirst.append rest⟩

theorem suffix_of_findOpening (hopen : d.findOpening s = some (before, after)) : after <:+ s :=
  ⟨before ++ d.opening.toList, (findOpening_append hopen).symm⟩

/-- More text behind a sealed one makes the window of a placeholder larger, if at all. -/
theorem Sealed.exists_window (hd : d.opening.toList ≠ []) (hsealed : d.Sealed after)
    (rest : List Char) :
    ∃ more behind, d.window (after ++ rest) = ((d.window after).1 ++ more, behind) ∧
      more ++ behind = (d.window after).2 ++ rest := by
  cases hopen : d.findOpening after with
  | some p =>
    have hopen' := findOpening_append_right hopen rest
    refine ⟨[], d.opening.toList ++ (p.2 ++ rest), ?_, ?_⟩
    · simp [window, hopen, hopen']
    · simp [window, hopen]
  | none =>
    have hfree := (findOpening_eq_none_iff.1 hopen).resolve_left hd
    have hplain := hsealed.plain hfree rest
    refine ⟨(d.window rest).1, (d.window rest).2, ?_, ?_⟩
    · rw [hplain.window_eq]
      simp [window, hopen]
    · rw [d.window_append]
      simp [window, hopen]

/-- What has been decided on a delimiter stays decided, unless nothing has closed it. -/
theorem Judged.append (h : d.Judged limit after segment (some next)) (hd : d.opening.toList ≠ [])
    (hsealed : d.Sealed after) (rest : List Char) :
    d.Judged limit (after ++ rest) segment (some (next ++ rest)) := by
  obtain ⟨more, behind, hwindow, hmore⟩ := hsealed.exists_window hd rest
  have hstill {body tail : List Char}
      (hclose : d.findClosing (d.window after).1 = some (body, tail)) :
      d.findClosing (d.window (after ++ rest)).1 = some (body, tail ++ more) := by
    rw [hwindow]
    exact findClosing_eq_some_iff.2 ((findClosing_eq_some_iff.1 hclose).append more)
  cases h with
  | @closed body tail hclose hlimit =>
    have hjudged := Judged.closed (hstill hclose) hlimit
    rw [hwindow, List.append_assoc tail, hmore, ← List.append_assoc] at hjudged
    exact hjudged
  | overlong hclose hlimit => exact .overlong (hstill hclose) hlimit
  | restarted hclose hopen =>
    -- the window ends at the next opening delimiter, so it stays as it is
    have hopen' := findOpening_append_right hopen rest
    refine .restarted ?_ hopen'
    simpa only [window, hopen, hopen'] using hclose

end Delimiters

/-! ### Cutting two templates -/

section Cutting

variable {d : Delimiters} {limit : Nat} {front : List Char}

theorem seamless_any_isUnterminated :
    Seamless (fun l : List Segment => l.any Segment.isUnterminated) fun _ a => a where
  push_nil _ := rfl
  push_push _ _ _ := rfl
  literal _ _ := rfl
  cons s l l' h := by
    simp only [List.any_cons]
    rw [h]

theorem joined_simpleSegments_append (hd : d.opening.toList ≠ []) (hsealed : d.Sealed front)
    (hclosed : (simpleSegments d limit front).any Segment.isUnterminated = false)
    (rest : List Char) :
    joined (simpleSegments d limit (front ++ rest)) =
      joined (simpleSegments d limit front ++ simpleSegments d limit rest) := by
  revert hsealed hclosed
  induction front using simpleSegments_induction d limit with
  | rest s hopen =>
    intro hsealed _
    have hfree := (Delimiters.findOpening_eq_none_iff.1 hopen).resolve_left hd
    exact (hsealed.plain hfree rest).joined_simpleSegments limit
  | escaped s before after kept hopen hescape ih =>
    intro hsealed hclosed
    have hopen' := Delimiters.findOpening_append_right hopen rest
    have hafter := hsealed.of_suffix (Delimiters.suffix_of_findOpening hopen)
    rw [simpleSegments_of_escape hopen' hescape]
    have hrest := ih hafter hclosed
    exact joined_cons_congr _ (joined_cons_congr _ hrest)
  | judged s before after segment next hopen hescape hjudged ih =>
    intro hsealed hclosed
    have hopen' := Delimiters.findOpening_append_right hopen rest
    have hafter := hsealed.of_suffix (Delimiters.suffix_of_findOpening hopen)
    cases next with
    | none =>
      -- an open placeholder is what is excluded
      cases hjudged
      simp [Segment.isUnterminated] at hclosed
    | some r =>
      have hr := hafter.of_suffix hjudged.suffix
      have hjudged' := hjudged.append hd hafter rest
      rw [simpleSegments_of_opening hopen' hescape, hjudged'.judgedSegments_eq]
      simp only [Option.map_some, Option.getD_some, List.any_cons, Bool.or_eq_false_iff] at hclosed
      have hrest := ih r rfl hr hclosed.2.2
      exact joined_cons_congr _ (joined_cons_congr _ hrest)

theorem joined_segments_append (hd : d.opening.toList ≠ []) (hsealed : d.Sealed front)
    (hclosed : ∀ s ∈ segments d limit front, s.isUnterminated = false) (rest : List Char) :
    joined (segments d limit (front ++ rest)) =
      joined (segments d limit front ++ segments d limit rest) := by
  have hsegments (t : List Char) :
      joined (segments d limit t) = joined (simpleSegments d limit t) :=
    Scan.joined_segments d limit (.text t)
  have hany : (simpleSegments d limit front).any Segment.isUnterminated = false := by
    rw [← seamless_any_isUnterminated.read_congr (hsegments front), List.any_eq_false]
    intro s hs
    rw [hclosed s hs]
    exact Bool.false_ne_true
  rw [hsegments, joined_simpleSegments_append hd hsealed hany]
  exact joined_append_congr (hsegments front).symm (hsegments rest).symm

end Cutting

/-! ### Rendering two templates -/

/-- The report on two renders, one behind the other. -/
def Report.append (r r' : Report) : Report where
  substituted := r.substituted + r'.substituted
  unknown := r.unknown ++ r'.unknown
  malformed := r.malformed + r'.malformed
  unterminated := r.unterminated || r'.unterminated
  skipped := r.skipped + r'.skipped
  escaped := r.escaped + r'.escaped

theorem Report.ofPieces_append (pieces pieces' : List Piece) :
    ofPieces (pieces ++ pieces') = (ofPieces pieces).append (ofPieces pieces') := by
  simp [ofPieces, append]

namespace Piece

variable {budget budget' : Nat} {pieces : List Piece}

theorem cutOff_append (budget : Nat) (pieces pieces' : List Piece) :
    cutOff budget (pieces ++ pieces') =
      cutOff budget pieces ++ cutOff (budget - pieces.countP isSubstituted) pieces' := by
  induction pieces generalizing budget with
  | nil => rfl
  | cons p pieces ih =>
    rw [List.cons_append, cutOff_cons, ih, cutOff_cons, List.cons_append, List.countP_cons]
    congr 3
    split <;> omega

/-- Where nothing is skipped, a larger budget would change nothing. -/
theorem cutOff_congr (hle : budget ≤ budget')
    (h : (cutOff budget pieces).countP isSkipped = 0) :
    cutOff budget pieces = cutOff budget' pieces := by
  induction pieces generalizing budget budget' with
  | nil => rfl
  | cons p pieces ih =>
    rw [cutOff_cons, List.countP_cons, Nat.add_eq_zero_iff] at h
    obtain ⟨hrest, hp⟩ := h
    have hbudgets : (if p.isSubstituted then budget - 1 else budget) ≤
        if p.isSubstituted then budget' - 1 else budget' := by
      split <;> omega
    rw [cutOff_cons, cutOff_cons, ih hbudgets hrest]
    congr 1
    by_cases hbudget : budget = 0
    · -- nothing is left of the budget, so the piece is no placeholder
      rw [if_pos hbudget] at hp ⊢
      have hself : p.skip = p := skip_eq_self_of_not_isSkipped (by simpa using hp)
      rw [hself, ite_self]
    · rw [if_neg hbudget, if_neg (by omega)]

theorem isUnterminated_skip (p : Piece) : p.skip.isUnterminated = p.isUnterminated := by
  cases p <;> rfl

theorem any_isUnterminated_cutOff (budget : Nat) (pieces : List Piece) :
    (cutOff budget pieces).any isUnterminated = pieces.any isUnterminated := by
  have h := congrArg (List.any · isUnterminated) (map_skip_cutOff budget pieces)
  simpa [List.any_map, Function.comp_def, isUnterminated_skip] using h

end Piece

namespace Engine

variable {e : Engine} {world : World} {words : Words}

theorem isUnterminated_unlimited (s : Segment) :
    (e.unlimited world words s).isUnterminated = s.isUnterminated := by
  cases s <;> rfl

/-- The text and the report of segments, as far as a budget goes. -/
def told (e : Engine) (world : World) (words : Words) (segments : List Segment) (budget : Nat) :
    List Char × Report :=
  let pieces := Piece.cutOff budget (segments.map (e.unlimited world words))
  (pieces.flatMap Piece.text, .ofPieces pieces)

/-- It does not matter how many literals a text is cut into. -/
theorem seamless_told (e : Engine) (world : World) (words : Words) :
    Seamless (e.told world words) fun t told budget => (t ++ (told budget).1, (told budget).2) where
  push_nil _ := rfl
  push_push t u told := by
    funext budget
    simp
  literal t l := by
    funext budget
    have hskip : (if budget = 0 then (Piece.copied ⟨.literal t, none⟩).skip
        else .copied ⟨.literal t, none⟩) = .copied ⟨.literal t, none⟩ := ite_self _
    simp only [told, List.map_cons, unlimited, Piece.cutOff_cons, hskip]
    rfl
  cons s l l' h := by
    funext budget
    have hrest := congrFun h
    simp only [told, Prod.mk.injEq] at hrest
    simp only [told, List.map_cons, Piece.cutOff_cons, List.flatMap_cons, Prod.mk.injEq]
    rw [(hrest _).1, ← List.singleton_append, Report.ofPieces_append, (hrest _).2,
      ← Report.ofPieces_append, List.singleton_append]
    exact ⟨rfl, rfl⟩

theorem told_append {segments segments' : List Segment} {budget : Nat}
    (h : (e.told world words (segments ++ segments') budget).2.skipped = 0) :
    e.told world words (segments ++ segments') budget =
      ((e.told world words segments budget).1 ++ (e.told world words segments' budget).1,
        (e.told world words segments budget).2.append
          (e.told world words segments' budget).2) := by
  simp only [told, List.map_append, Piece.cutOff_append, Report.ofPieces_append] at h ⊢
  -- what is left of the budget is enough for the second part
  have hskipped := (Nat.add_eq_zero_iff.1 h).2
  rw [Piece.cutOff_congr (Nat.sub_le _ _) hskipped, List.flatMap_append]

/-- No budget decides whether a placeholder is left open. -/
theorem unterminated_told (e : Engine) (world : World) (words : Words)
    (segments : List Segment) (budget : Nat) :
    (e.told world words segments budget).2.unterminated =
      segments.any Segment.isUnterminated := by
  simp only [told, Report.ofPieces, Piece.any_isUnterminated_cutOff, List.any_map,
    Function.comp_def, isUnterminated_unlimited]

theorem told_of_silent {r : Rendering} {segments : List Segment} {budget : Nat}
    (h : r.pieces.map Piece.silent =
      Piece.cutOff budget (segments.map (e.unlimited world words))) :
    e.told world words segments budget = (r.output.toList, r.report) := by
  rw [told, ← h, Report.ofPieces_map_silent, Rendering.output, String.toList_ofList,
    List.flatMap_map]
  simp only [Piece.text_silent]
  rfl

end Engine

/-- **Rendering is a homomorphism where nothing is left open.** Let a template not end with a dollar
    sign and leave no placeholder open. With the usual punctuation, what is behind it is cut as if
    it stood alone, up to the joining of literals. If the answers are determined by the calls and
    no placeholder is skipped, both are rendered as if they stood alone, in whatever worlds and
    with whatever random words. -/
theorem render_append {limit : Nat} {t : String} (hlast : t.toList.getLast? ≠ some '$')
    (hclosed : ∀ s ∈ segments .standard limit t.toList, s.isUnterminated = false) (u : String) :
    joined (segments .standard limit (t ++ u).toList) =
      joined (segments .standard limit t.toList ++ segments .standard limit u.toList) ∧
    ∀ (e : Engine) (world world₁ world₂ : World) (words words₁ words₂ : Words),
      e.delimiters = .standard → e.limits.bodyLength = limit →
      e.registry.DeterministicIn world world₁ → e.registry.DeterministicIn world world₂ →
      (e.render world words (t ++ u)).report.skipped = 0 →
      (e.render world words (t ++ u)).output =
        (e.render world₁ words₁ t).output ++ (e.render world₂ words₂ u).output ∧
      (e.render world words (t ++ u)).report =
        { substituted := (e.render world₁ words₁ t).report.substituted +
            (e.render world₂ words₂ u).report.substituted
          unknown := (e.render world₁ words₁ t).report.unknown ++
            (e.render world₂ words₂ u).report.unknown
          malformed := (e.render world₁ words₁ t).report.malformed +
            (e.render world₂ words₂ u).report.malformed
          unterminated := (e.render world₂ words₂ u).report.unterminated
          skipped := (e.render world₁ words₁ t).report.skipped +
            (e.render world₂ words₂ u).report.skipped
          escaped := (e.render world₁ words₁ t).report.escaped +
            (e.render world₂ words₂ u).report.escaped } := by
  have hjoined := joined_segments_append (by decide)
    (Delimiters.sealed_standard hlast) hclosed u.toList
  rw [← String.toList_append] at hjoined
  refine ⟨hjoined, ?_⟩
  intro e world world₁ world₂ words words₁ words₂ hdelimiters hlimit hr₁ hr₂ hskipped
  have hboth := Engine.told_of_silent (e.render_silent hr₁.left words words (t ++ u))
  have hfirst := Engine.told_of_silent (e.render_silent hr₁ words words₁ t)
  have hsecond := Engine.told_of_silent (e.render_silent hr₂ words words₂ u)
  rw [hdelimiters, hlimit] at hboth hfirst hsecond
  -- the segments of both templates are told like those of one behind those of the other
  rw [(e.seamless_told world words).read_congr hjoined] at hboth
  have htold := Engine.told_append (by rw [hboth]; exact hskipped)
  have hopen : (e.render world₁ words₁ t).report.unterminated = false := by
    have hany := e.unterminated_told world words (segments .standard limit t.toList)
      e.limits.expansions
    rw [hfirst, List.any_eq_false.2] at hany
    · exact hany
    · intro s hs
      rw [hclosed s hs]
      exact Bool.false_ne_true
  rw [hboth, hfirst, hsecond, Prod.mk.injEq] at htold
  obtain ⟨houtput, hreport⟩ := htold
  constructor
  · rw [← @String.ofList_toList (e.render world words (t ++ u)).output, houtput]
    simp
  · rw [hreport, Report.append, hopen, Bool.false_or]

/-- A delimiter that starts again, an escaped one, and an open placeholder in the second template
    only. -/
theorem render_append_open :
    "$\x7ba $$\x7b$\x7bEcho(b)\x7d\x7b".toList.getLast? ≠ some '$' ∧
      (∀ s ∈ segments .standard 1024 "$\x7ba $$\x7b$\x7bEcho(b)\x7d\x7b".toList,
        s.isUnterminated = false) ∧
      (Engine.echoing.render ⟨0, ⟨[]⟩⟩ ⟨fun _ => 0, 0⟩
        ("$\x7ba $$\x7b$\x7bEcho(b)\x7d\x7b" ++ "\x7b$\x7bEcho(c)\x7d$\x7b")).report.skipped = 0 ∧
      (Engine.echoing.render ⟨0, ⟨[]⟩⟩ ⟨fun _ => 0, 0⟩
        ("$\x7ba $$\x7b$\x7bEcho(b)\x7d\x7b" ++ "\x7b$\x7bEcho(c)\x7d$\x7b")).output =
          "$\x7ba $\x7bb\x7b" ++ "\x7bc$\x7b" ∧
      (Engine.echoing.render ⟨0, ⟨[]⟩⟩ ⟨fun _ => 0, 0⟩
        ("$\x7ba $$\x7b$\x7bEcho(b)\x7d\x7b" ++ "\x7b$\x7bEcho(c)\x7d$\x7b")).report =
          ⟨1 + 1, [] ++ [], 0 + 0, true, 0 + 0, 1 + 0⟩ := by
  have hlast : "$\x7ba $$\x7b$\x7bEcho(b)\x7d\x7b".toList.getLast? ≠ some '$' := by decide
  have hclosed : ∀ s ∈ segments .standard 1024 "$\x7ba $$\x7b$\x7bEcho(b)\x7d\x7b".toList,
      s.isUnterminated = false := by decide +kernel
  have hskipped : (Engine.echoing.render ⟨0, ⟨[]⟩⟩ ⟨fun _ => 0, 0⟩
      ("$\x7ba $$\x7b$\x7bEcho(b)\x7d\x7b" ++ "\x7b$\x7bEcho(c)\x7d$\x7b")).report.skipped = 0 := by
    decide +kernel
  have hr := Engine.deterministicIn_echoing ⟨0, ⟨[]⟩⟩ ⟨7, ⟨[]⟩⟩
  obtain ⟨houtput, hreport⟩ := (render_append hlast hclosed "\x7b$\x7bEcho(c)\x7d$\x7b").2
    Engine.echoing ⟨0, ⟨[]⟩⟩ ⟨7, ⟨[]⟩⟩ ⟨7, ⟨[]⟩⟩ ⟨fun _ => 0, 0⟩ ⟨fun _ => 1, 0⟩ ⟨fun _ => 2, 0⟩
    rfl rfl hr hr hskipped
  have hfirst : (Engine.echoing.render ⟨7, ⟨[]⟩⟩ ⟨fun _ => 1, 0⟩
      "$\x7ba $$\x7b$\x7bEcho(b)\x7d\x7b").output = "$\x7ba $\x7bb\x7b" := by decide +kernel
  have hsecond : (Engine.echoing.render ⟨7, ⟨[]⟩⟩ ⟨fun _ => 2, 0⟩
      "\x7b$\x7bEcho(c)\x7d$\x7b").output = "\x7bc$\x7b" := by decide +kernel
  have hfirst' : (Engine.echoing.render ⟨7, ⟨[]⟩⟩ ⟨fun _ => 1, 0⟩
      "$\x7ba $$\x7b$\x7bEcho(b)\x7d\x7b").report = ⟨1, [], 0, false, 0, 1⟩ := by decide +kernel
  have hsecond' : (Engine.echoing.render ⟨7, ⟨[]⟩⟩ ⟨fun _ => 2, 0⟩
      "\x7b$\x7bEcho(c)\x7d$\x7b").report = ⟨1, [], 0, true, 0, 0⟩ := by decide +kernel
  rw [hfirst, hsecond] at houtput
  rw [hfirst', hsecond'] at hreport
  exact ⟨hlast, hclosed, hskipped, houtput, hreport⟩

end Stencil
