import Stencil.Proofs.Cutting

/-!
# A rule with one state

The cutting jumps over whole windows, stays inside a placeholder that starts again, and goes back to
an escape that it has passed. Up to the joining of literals that lie side by side it does the same
as a rule that has no such states (`simpleSegments`): look for the next opening delimiter, decide
what becomes of it, and go on directly behind what was decided on.

The proof is a simulation. Text in front of a list of joined segments is glued to it (`glue`), and
gluing piece by piece is gluing at once; so it does not matter in how many pieces the two sides cut
the same text.
-/

namespace Stencil

open Text

/-! ### Joining literals -/

/-- Segments with text in front of them, which becomes part of a literal that comes first. -/
def glue (t : List Char) : List Segment → List Segment
  | .literal u :: rest => .literal (t ++ u) :: rest
  | rest => if t.isEmpty then rest else .literal t :: rest

/-- Segments in which all literals that lie side by side are one; a literal without text is
    none. -/
def joined : List Segment → List Segment
  | [] => []
  | .literal t :: rest => glue t (joined rest)
  | s :: rest => s :: joined rest

theorem glue_nil (l : List Segment) : glue [] l = l := by
  unfold glue
  split <;> rfl

theorem glue_glue (t u : List Char) (l : List Segment) : glue t (glue u l) = glue (t ++ u) l := by
  cases l with
  | nil => cases u <;> cases t <;> simp [glue]
  | cons s rest =>
    cases s with
    | literal v => simp only [glue, List.append_assoc]
    | escaped v => cases u <;> cases t <;> simp [glue]
    | placeholder raw body => cases u <;> cases t <;> simp [glue]
    | unterminated v => cases u <;> cases t <;> simp [glue]

theorem joined_literal_nil (l : List Segment) : joined (.literal [] :: l) = joined l :=
  glue_nil (joined l)

/-- One literal may be cut in two. -/
theorem joined_literal_append (t u : List Char) (l : List Segment) :
    joined (.literal (t ++ u) :: l) = joined (.literal t :: .literal u :: l) :=
  (glue_glue t u (joined l)).symm

/-- What comes first is joined to the rest as it is joined, so lists that agree when joined may be
    replaced by each other. -/
theorem joined_cons_congr (s : Segment) {l l' : List Segment} (h : joined l = joined l') :
    joined (s :: l) = joined (s :: l') := by
  cases s <;> simp only [joined, h]

/-! ### The rule -/

namespace Delimiters

variable (d : Delimiters) (limit : Nat)

/-- What becomes of an opening delimiter that no escape stands before, and where to go on, unless
    nothing closes it before the end. -/
def judge (after : List Char) : Segment × Option (List Char) :=
  match d.findClosing (d.window after).1 with
  | some (body, rest) =>
    if byteLength body ≤ limit then
      (.placeholder (d.opening.toList ++ body ++ d.closing.toList) body,
        some (rest ++ (d.window after).2))
    else (.literal d.opening.toList, some after)
  | none =>
    if (d.findOpening after).isSome then (.literal d.opening.toList, some after)
    else (.unterminated (d.opening.toList ++ after), none)

variable {d limit}

theorem length_judge_le {after rest : List Char} (h : (d.judge limit after).2 = some rest) :
    rest.length ≤ after.length := by
  unfold judge at h
  split at h
  · next body rest' hclose =>
    split at h
    · obtain rfl := Option.some.inj h
      have hwindow := congrArg List.length (d.window_append after)
      have hall := congrArg List.length (findClosing_append hclose)
      simp only [List.length_append] at hwindow hall ⊢
      omega
    · obtain rfl := Option.some.inj h
      exact Nat.le_refl _
  · split at h
    · obtain rfl := Option.some.inj h
      exact Nat.le_refl _
    · cases h

theorem length_findOpening_lt {s before after : List Char}
    (h : d.findOpening s = some (before, after)) : after.length < s.length := by
  have hpos := opening_pos_of_findOpening h
  have hall := congrArg List.length (findOpening_append h)
  simp only [List.length_append] at hall
  omega

end Delimiters

/-- The segments by a rule with one state: what lies before the next opening delimiter is text, an
    escape at its end makes the delimiter text, and else the delimiter is judged by what follows
    it. -/
def simpleSegments (d : Delimiters) (limit : Nat) (s : List Char) : List Segment :=
  match _hopen : d.findOpening s with
  | none => [.literal s]
  | some (before, after) =>
    match d.beforeEscape before with
    | some kept => .literal kept :: .escaped d.opening.toList :: simpleSegments d limit after
    | none =>
      .literal before ::
      match _hjudge : d.judge limit after with
      | (segment, some rest) => segment :: simpleSegments d limit rest
      | (segment, none) => [segment]
termination_by s.length
decreasing_by
  · exact Delimiters.length_findOpening_lt _hopen
  · have := Delimiters.length_judge_le (congrArg Prod.snd _hjudge)
    exact Nat.lt_of_le_of_lt this (Delimiters.length_findOpening_lt _hopen)

/-- The segments by the same rule from an opening delimiter on that is to be judged. -/
def judgedSegments (d : Delimiters) (limit : Nat) (after : List Char) : List Segment :=
  match d.judge limit after with
  | (segment, some rest) => segment :: simpleSegments d limit rest
  | (segment, none) => [segment]

section Rule

variable {d : Delimiters} {limit : Nat} {s before after kept : List Char}

theorem simpleSegments_of_none (h : d.findOpening s = none) :
    simpleSegments d limit s = [.literal s] := by
  rw [simpleSegments]
  split
  · rfl
  · next hsome => cases h.symm.trans hsome

theorem simpleSegments_of_some (h : d.findOpening s = some (before, after)) :
    simpleSegments d limit s =
      match d.beforeEscape before with
      | some kept => .literal kept :: .escaped d.opening.toList :: simpleSegments d limit after
      | none => .literal before :: judgedSegments d limit after := by
  rw [simpleSegments]
  split
  · next hnone => cases h.symm.trans hnone
  · next before' after' hsome =>
    obtain ⟨rfl, rfl⟩ := Prod.mk.inj (Option.some.inj (h.symm.trans hsome))
    cases d.beforeEscape before with
    | some kept => rfl
    | none =>
      rw [judgedSegments]
      rcases d.judge limit after with ⟨segment, _ | rest⟩ <;> rfl

theorem simpleSegments_of_escape (h : d.findOpening s = some (before, after))
    (hescape : d.beforeEscape before = some kept) :
    simpleSegments d limit s =
      .literal kept :: .escaped d.opening.toList :: simpleSegments d limit after := by
  rw [simpleSegments_of_some h, hescape]

theorem simpleSegments_of_opening (h : d.findOpening s = some (before, after))
    (hescape : d.beforeEscape before = none) :
    simpleSegments d limit s = .literal before :: judgedSegments d limit after := by
  rw [simpleSegments_of_some h, hescape]

/-- An escape that ends in front of the first opening delimiter is still in front of the first one
    when the text before the escape has been cut off. -/
theorem simpleSegments_at_escape (h : d.findOpening s = some (before, after))
    (hescape : d.beforeEscape before = some kept) :
    simpleSegments d limit (d.escapeText ++ d.opening.toList ++ after) =
      .literal [] :: .escaped d.opening.toList :: simpleSegments d limit after := by
  obtain ⟨hne, hfirst⟩ := Delimiters.findOpening_eq_some_iff.1 h
  obtain ⟨hx, rfl⟩ := Delimiters.beforeEscape_eq_some_iff.1 hescape
  have hs : s = kept ++ (d.escapeText ++ d.opening.toList ++ after) := by
    rw [hfirst.split]
    simp only [List.append_assoc]
  rw [hs] at hfirst
  have hopen : d.findOpening (d.escapeText ++ d.opening.toList ++ after) =
      some (d.escapeText, after) := Delimiters.findOpening_eq_some_iff.2 ⟨hne, hfirst.drop⟩
  have hnil : d.beforeEscape d.escapeText = some [] :=
    Delimiters.beforeEscape_eq_some_iff.2 ⟨hx, rfl⟩
  exact simpleSegments_of_escape hopen hnil

end Rule

/-! ### The simulation -/

namespace Scan

variable {d : Delimiters} {limit : Nat}

/-- What the rule makes of the part of the template that is not cut yet. -/
def simple (d : Delimiters) (limit : Nat) : Scan → List Segment
  | .text rest => simpleSegments d limit rest
  | .inside after => judgedSegments d limit after
  | .done => []

theorem Leaves.joined_judgedSegments {after : List Char} {segment : Segment} {s : Scan}
    (h : Leaves d limit after segment s) :
    joined (judgedSegments d limit after) = joined (segment :: s.simple d limit) := by
  cases h with
  | closed hclose hlimit =>
    simp only [judgedSegments, Delimiters.judge, hclose, hlimit, if_pos, simple]
  | overlong hclose hlimit =>
    simp only [judgedSegments, Delimiters.judge, hclose, Nat.not_le.2 hlimit, if_false, simple]
  | restarted hopen hclose hescape =>
    have hjudge : judgedSegments d limit after =
        .literal d.opening.toList :: simpleSegments d limit after := by
      simp [judgedSegments, Delimiters.judge, Delimiters.window, hopen, hclose]
    -- the rule cuts the delimiter and the window apart, the cutting leaves them together
    rw [hjudge, simpleSegments_of_opening hopen hescape, joined_literal_append]
    rfl
  | restartedAtEscape hopen hclose hescape =>
    have hjudge : judgedSegments d limit after =
        .literal d.opening.toList :: simpleSegments d limit after := by
      simp [judgedSegments, Delimiters.judge, Delimiters.window, hopen, hclose]
    rw [hjudge, simpleSegments_of_escape hopen hescape, joined_literal_append, simple,
      simpleSegments_at_escape hopen hescape]
    exact joined_cons_congr _ (joined_cons_congr _ (joined_literal_nil _).symm)
  | unterminated hopen hclose =>
    simp [judgedSegments, Delimiters.judge, Delimiters.window, hopen, hclose, simple]

/-- A step of the cutting does what the rule does, up to the joining of literals. -/
theorem Step.joined_simple {s s' : Scan} {segment : Segment} (h : Step d limit s segment s') :
    joined (s.simple d limit) = joined (segment :: s'.simple d limit) := by
  cases h with
  | rest hne hopen => rw [simple, simpleSegments_of_none hopen]; rfl
  | escaped hopen hescape =>
    rw [simple, simpleSegments_of_escape hopen hescape, joined_literal_nil]
    rfl
  | beforeEscape hopen hescape hne =>
    rw [simple, simpleSegments_of_escape hopen hescape, simple,
      simpleSegments_at_escape hopen hescape]
    exact joined_cons_congr _ (joined_literal_nil _).symm
  | beforeOpening hopen hescape hne =>
    rw [simple, simpleSegments_of_opening hopen hescape]
    rfl
  | atOpening hopen hescape hleaves =>
    rw [simple, simpleSegments_of_opening hopen hescape, joined_literal_nil]
    exact hleaves.joined_judgedSegments
  | inside hleaves => exact hleaves.joined_judgedSegments

theorem joined_segments (d : Delimiters) (limit : Nat) (s : Scan) :
    joined (segments d limit s) = joined (s.simple d limit) := by
  induction s using run_induction d limit with
  | stop => rfl
  | emptyText =>
    cases h : d.findOpening [] with
    | none => rw [simple, simpleSegments_of_none h]; rfl
    | some p => exact absurd (Delimiters.length_findOpening_lt h) (Nat.not_lt_zero _)
  | step s segment s' hstep ih => rw [hstep.joined_simple, joined_cons_congr segment ih]

end Scan

/-- **The cutting follows the rule with one state.** For any punctuation and any limit, the segments
    of a template with their literals joined are those of the rule with their literals joined. -/
theorem joined_segments_eq_simple (d : Delimiters) (limit : Nat) (template : List Char) :
    joined (segments d limit template) = joined (simpleSegments d limit template) :=
  Scan.joined_segments d limit (.text template)

end Stencil
