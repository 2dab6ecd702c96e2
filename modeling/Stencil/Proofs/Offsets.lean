import Stencil.Proofs.Cutting
import Stencil.Proofs.Encoding

/-!
# Cutting by offsets

The cutting of a template over its bytes. A scanner has a position and a mode. It finds delimiters
by searching for their bytes, and takes slices between sums and differences of offsets. A slice or a
difference need not exist (`Text.sliceBytes?`, `sub?`); a call that asks for one that does not exist
breaks off.

No call does. The invariant is that a scanner is at a place of the cutting on characters
(`Scanner.At`). There every part of a call gives the bytes of what that cutting cuts, and moves on
to where that cutting goes on (`Scanner.Gives`), so that both cut a template into the same segments.
The delimiters need not make sense for this: only the opening one must not be empty where it is
searched for behind another one, and the scanner sees to that itself.
-/

namespace Stencil

open Text

/-! ### What a step leaves -/

theorem Segment.byteLength_source_pos {segment : Segment} (d : Delimiters)
    (h : segment.text ≠ []) : 0 < byteLength (segment.source d) := by
  have hpos := byteLength_pos h
  cases segment with
  | escaped t =>
    rw [Segment.source, byteLength_append]
    exact Nat.lt_add_left _ hpos
  | literal t => exact hpos
  | placeholder raw body => exact hpos
  | unterminated t => exact hpos

namespace Scan

variable {d : Delimiters} {limit : Nat}

/-- A step takes bytes off what is left. -/
theorem Step.byteLength_remainder_lt {s s' : Scan} {segment : Segment}
    (h : Step d limit s segment s') (hs : s.Sound d) :
    byteLength (s'.remainder d) < byteLength (s.remainder d) := by
  have hpos := Segment.byteLength_source_pos d (h.proper hs).1
  rw [h.source_remainder, byteLength_append]
  omega

/-- There are not more segments than bytes. -/
theorem length_segments_le (d : Delimiters) (limit : Nat) (s : Scan) (hs : s.Sound d) :
    (segments d limit s).length ≤ byteLength (s.remainder d) := by
  revert hs
  induction s using run_induction d limit with
  | stop => exact fun _ => Nat.zero_le _
  | emptyText => exact fun _ => Nat.zero_le _
  | step s segment s' hstep ih =>
    intro hs
    have hless := hstep.byteLength_remainder_lt hs
    have hrest := ih (hstep.proper hs).2.2
    rw [List.length_cons]
    omega

end Scan

/-! ### Scanners -/

/-- A segment as bytes. -/
inductive Span where
  | literal (text : List UInt8)
  | escaped (delimiter : List UInt8)
  | placeholder (raw body : List UInt8)
  | unterminated (text : List UInt8)
deriving DecidableEq, Repr

/-- The bytes of a segment. -/
def Segment.span : Segment → Span
  | .literal t => .literal (bytes t)
  | .escaped t => .escaped (bytes t)
  | .placeholder raw body => .placeholder (bytes raw) (bytes body)
  | .unterminated t => .unterminated (bytes t)

/-- The difference of two offsets. -/
def sub? (a b : Nat) : Option Nat := if b ≤ a then some (a - b) else none

/-- What a scanner has in front of it. -/
inductive Scanner.Mode where
  /-- Text begins at the position. -/
  | text
  /-- An opening delimiter begins at the position. -/
  | inside
  /-- Nothing is left. -/
  | done
deriving DecidableEq, Repr

/-- The state of a scanner between two calls. -/
structure Scanner where
  pos : Nat
  mode : Scanner.Mode
deriving DecidableEq, Repr

namespace Scanner

/-! ### The calls -/

section Calls

variable (d : Delimiters) (limit : Nat) (input : List UInt8)

/-- The bytes of the escape; without one there are none. -/
def escapeBytes : List UInt8 := octets (d.escape.getD "")

/-- The length of the escape at the end of what reaches from one opening delimiter to the next,
    unless it would take in a part of the first one. -/
def escapeLength? (kept : List UInt8) : Option Nat :=
  if !(escapeBytes d).isEmpty && (escapeBytes d).isSuffixOf kept then do
    let before ← sub? kept.length (escapeBytes d).length
    return if (octets d.opening).length ≤ before then (escapeBytes d).length else 0
  else some 0

/-- The call at an opening delimiter that has another one before anything closes it. -/
def restartStep (pos restartAt : Nat) : Option (Option Span × Scanner) := do
  let kept ← sliceBytes? input pos restartAt
  let escapeLength ← escapeLength? d kept
  let stop ← sub? restartAt escapeLength
  let text ← sliceBytes? input pos stop
  return (some (.literal text), ⟨stop, if escapeLength = 0 then .inside else .text⟩)

/-- The call at an opening delimiter that is closed: `close` is the length of the body. -/
def closeStep (pos : Nat) (after : List UInt8) (close : Nat) : Option (Option Span × Scanner) := do
  let bodyStart := pos + (octets d.opening).length
  if limit < close then
    let text ← sliceBytes? input pos bodyStart
    return (some (.literal text), ⟨bodyStart, .text⟩)
  else
    let stop := bodyStart + close + (octets d.closing).length
    let raw ← sliceBytes? input pos stop
    let body ← sliceBytes? after 0 close
    return (some (.placeholder raw body), ⟨stop, .text⟩)

/-- The call at an opening delimiter that nothing closes. -/
def unterminatedStep (pos : Nat) : Option (Option Span × Scanner) := do
  let text ← sliceBytes? input pos input.length
  return (some (.unterminated text), ⟨input.length, .done⟩)

def insideStep (pos : Nat) : Option (Option Span × Scanner) := do
  let bodyStart := pos + (octets d.opening).length
  let after ← sliceBytes? input bodyStart input.length
  let restart := findBytes? (octets d.opening) after
  let window ← sliceBytes? after 0 (restart.getD after.length)
  match findBytes? (octets d.closing) window, restart with
  | some close, _ => closeStep d limit input pos after close
  | none, some next => restartStep d input pos (bodyStart + next)
  | none, none => unterminatedStep input pos

/-- The call behind whose position lies `rest`, with an opening delimiter at `offset` in it. -/
def openingStep (pos : Nat) (rest : List UInt8) (offset : Nat) :
    Option (Option Span × Scanner) := do
  let text ← sliceBytes? rest 0 offset
  if !(escapeBytes d).isEmpty && (escapeBytes d).isSuffixOf text then
    let stop ← sub? text.length (escapeBytes d).length
    let before ← sliceBytes? text 0 stop
    let delimiter ← sliceBytes? rest offset (offset + (octets d.opening).length)
    if before.isEmpty then
      return (some (.escaped delimiter), ⟨pos + offset + (octets d.opening).length, .text⟩)
    else return (some (.literal before), ⟨pos + before.length, .text⟩)
  else if text.isEmpty then insideStep d limit input (pos + offset)
  else return (some (.literal text), ⟨pos + offset, .inside⟩)

def textStep (pos : Nat) : Option (Option Span × Scanner) := do
  let rest ← sliceBytes? input pos input.length
  if rest.isEmpty then return (none, ⟨pos, .done⟩)
  else
    let found :=
      if (octets d.opening).isEmpty then none else findBytes? (octets d.opening) rest
    match found with
    | none => return (some (.literal rest), ⟨input.length, .done⟩)
    | some offset => openingStep d limit input pos rest offset

/-- One call: the segment that it gives, if there is one, and the state behind it. It is `none`
    where the call breaks off. -/
def next (σ : Scanner) : Option (Option Span × Scanner) :=
  match σ.mode with
  | .text => textStep d limit input σ.pos
  | .inside => insideStep d limit input σ.pos
  | .done => some (none, σ)

/-- What the first calls give. -/
def calls (σ : Scanner) : Nat → Option (List (Option Span))
  | 0 => some []
  | n + 1 => do
    let (span, σ') ← next d limit input σ
    let spans ← calls σ' n
    return span :: spans

/-- The states that calls lead to. -/
inductive Reachable : Scanner → Prop
  | start : Reachable ⟨0, .text⟩
  | call {σ σ' : Scanner} {span : Option Span} (h : Reachable σ)
      (hcall : next d limit input σ = some (span, σ')) : Reachable σ'

end Calls

/-! ### Places -/

/-- A scanner is at a place of the cutting: what is left of the template there begins at its
    position. -/
inductive At (d : Delimiters) (template : List Char) : Scanner → Scan → Prop
  | text (passed : List Char) {rest : List Char} {pos : Nat} (h : template = passed ++ rest)
      (hpos : pos = byteLength passed) : At d template ⟨pos, .text⟩ (.text rest)
  | inside (passed : List Char) {after : List Char} {pos : Nat} (hd : d.opening.toList ≠ [])
      (h : template = passed ++ (d.opening.toList ++ after)) (hpos : pos = byteLength passed) :
      At d template ⟨pos, .inside⟩ (.inside after)
  | done : At d template ⟨byteLength template, .done⟩ .done

/-- A call gives the bytes of what is cut, and behind it the scanner is where the cutting is. -/
def Gives (d : Delimiters) (template : List Char) (called : Option (Option Span × Scanner))
    (cut : Cut × Scan) : Prop :=
  ∃ σ, called = some (some cut.1.segment.span, σ) ∧ At d template σ cut.2

variable {d : Delimiters} {limit : Nat} {template passed after rest window : List Char}
variable {σ σ' : Scanner} {s s' : Scan}

theorem At.sound (h : At d template σ s) : s.Sound d := by
  cases h with
  | text passed h hpos => trivial
  | inside passed hd h hpos => exact hd
  | done => trivial

theorem At.pos_add_remainder (h : At d template σ s) :
    σ.pos + byteLength (s.remainder d) = byteLength template := by
  cases h with
  | text passed h hpos => rw [h, byteLength_append, hpos]; rfl
  | inside passed hd h hpos => rw [h, byteLength_append, hpos]; rfl
  | done => rfl

theorem At.isBoundary (h : At d template σ s) : isBoundary (bytes template) σ.pos = true := by
  cases h with
  | @text passed rest pos h hpos =>
    rw [h, hpos]
    exact isBoundary_bytes passed rest
  | @inside passed after pos hd h hpos =>
    rw [h, hpos]
    exact isBoundary_bytes passed (d.opening.toList ++ after)
  | done =>
    have hend := isBoundary_bytes template []
    rwa [List.append_nil] at hend

/-- In a placeholder the opening delimiter is at the position. -/
theorem At.opening_prefix (h : At d template σ s) (hmode : σ.mode = .inside) :
    d.opening.toList ≠ [] ∧ bytes d.opening.toList <+: (bytes template).drop σ.pos := by
  cases h with
  | text passed h hpos => cases hmode
  | @inside passed after pos hd h hpos =>
    refine ⟨hd, bytes after, ?_⟩
    rw [h, hpos, bytes_append, ← length_bytes passed, List.drop_left, bytes_append]
  | done => cases hmode

/-! ### Escapes -/

theorem sub?_of_le {a b : Nat} (h : b ≤ a) : sub? a b = some (a - b) := if_pos h

theorem escapeBytes_eq (d : Delimiters) : escapeBytes d = bytes d.escapeText := octets_eq _

/-- The bytes end in the escape where the characters do. -/
theorem endsInEscape_iff {text : List Char} :
    (!(bytes d.escapeText).isEmpty && (bytes d.escapeText).isSuffixOf (bytes text)) = true ↔
      (d.beforeEscape text).isSome := by
  rw [Option.isSome_iff_ne_none, ne_eq, Delimiters.beforeEscape_eq_none_iff, not_or, not_not,
    Bool.and_eq_true, List.isSuffixOf_iff_suffix, bytes_suffix_iff, Bool.not_eq_true',
    List.isEmpty_eq_false_iff, ne_eq, bytes_eq_nil_iff]

/-- An escape that a window ends in only together with a part of the delimiter in front of it is
    longer than the window. -/
theorem length_window_lt (hescape : d.beforeEscape window = none)
    (hsuffix : d.escapeText <:+ d.opening.toList ++ window) (hne : d.escapeText ≠ []) :
    byteLength window < byteLength d.escapeText := by
  have hnot := (Delimiters.beforeEscape_eq_none_iff.1 hescape).resolve_left hne
  rcases List.suffix_or_suffix_of_suffix hsuffix (List.suffix_append _ window) with h | ⟨t, ht⟩
  · exact absurd h hnot
  · have htne : t ≠ [] := by
      rintro rfl
      exact hnot ⟨[], ht.symm⟩
    have hpos := byteLength_pos htne
    rw [← ht, byteLength_append]
    omega

/-- Between two opening delimiters an escape counts if it lies behind the first one. -/
theorem escapeLength?_eq (d : Delimiters) (window : List Char) :
    escapeLength? d (bytes (d.opening.toList ++ window)) =
      some (if (d.beforeEscape window).isSome then byteLength d.escapeText else 0) := by
  rw [escapeLength?, escapeBytes_eq, octets_eq]
  simp only [length_bytes, endsInEscape_iff]
  cases hescape : d.beforeEscape window with
  | some kept =>
    obtain ⟨hne, rfl⟩ := Delimiters.beforeEscape_eq_some_iff.1 hescape
    have hseen : (d.beforeEscape (d.opening.toList ++ (kept ++ d.escapeText))).isSome = true := by
      rw [Delimiters.beforeEscape_eq_some_iff.2 ⟨hne, (List.append_assoc _ _ _).symm⟩]
      rfl
    rw [if_pos hseen]
    simp only [byteLength_append]
    rw [sub?_of_le (by omega), Option.bind_eq_bind, Option.bind_some, if_pos (by omega)]
    rfl
  | none =>
    split
    · next hseen =>
      obtain ⟨kept, hkept⟩ := Option.isSome_iff_exists.1 hseen
      obtain ⟨hne, hsplit⟩ := Delimiters.beforeEscape_eq_some_iff.1 hkept
      have hlt := length_window_lt hescape ⟨kept, hsplit.symm⟩ hne
      have hlength := congrArg byteLength hsplit
      simp only [byteLength_append] at hlength ⊢
      rw [sub?_of_le (by omega), Option.bind_eq_bind, Option.bind_some, if_neg (by omega)]
      rfl
    · rfl

/-! ### Calls at an opening delimiter -/

theorem gives_restartStep {next : List Char} (hd : d.opening.toList ≠ [])
    (h : template = passed ++ (d.opening.toList ++ (window ++ (d.opening.toList ++ next)))) :
    Gives d template
      (restartStep d (bytes template) (byteLength passed)
        (byteLength passed + byteLength d.opening.toList + byteLength window))
      (Scan.restart d window next) := by
  have hkept : sliceBytes? (bytes template) (byteLength passed)
      (byteLength passed + byteLength d.opening.toList + byteLength window) =
        some (bytes (d.opening.toList ++ window)) :=
    sliceBytes?_of_split (p := passed) (q := d.opening.toList ++ next) (by rw [h]; simp) rfl
      (by rw [byteLength_append]; omega)
  simp only [restartStep, hkept, Option.bind_eq_bind, Option.bind_some, escapeLength?_eq,
    Scan.restart]
  cases hescape : d.beforeEscape window with
  | some kept =>
    -- the escape stays in front of the next opening delimiter
    obtain ⟨hne, rfl⟩ := Delimiters.beforeEscape_eq_some_iff.1 hescape
    have hpos := byteLength_pos hne
    have htext : sliceBytes? (bytes template) (byteLength passed)
        (byteLength passed + byteLength (d.opening.toList ++ kept)) =
          some (bytes (d.opening.toList ++ kept)) :=
      sliceBytes?_of_split (p := passed) (q := d.escapeText ++ (d.opening.toList ++ next))
        (by rw [h]; simp) rfl rfl
    have hstop : byteLength passed + byteLength d.opening.toList +
        byteLength (kept ++ d.escapeText) - byteLength d.escapeText =
          byteLength passed + byteLength (d.opening.toList ++ kept) := by
      simp only [byteLength_append]
      omega
    simp only [Option.isSome_some, if_true]
    rw [sub?_of_le (by rw [byteLength_append]; omega), Option.bind_some, hstop, htext,
      Option.bind_some, if_neg (by omega)]
    refine ⟨_, rfl, .text (passed ++ (d.opening.toList ++ kept)) ?_ ?_⟩
    · rw [h]
      simp
    · exact (byteLength_append _ _).symm
  | none =>
    simp only [Option.isSome_none, Bool.false_eq_true, if_false]
    rw [sub?_of_le (Nat.zero_le _), Option.bind_some, Nat.sub_zero, hkept, Option.bind_some]
    refine ⟨_, rfl, .inside (passed ++ (d.opening.toList ++ window)) hd ?_ ?_⟩
    · rw [h]
      simp
    · simp only [byteLength_append]
      omega

theorem gives_closeStep {body rest : List Char}
    (h : template = passed ++ (d.opening.toList ++ after))
    (hafter : after = body ++ (d.closing.toList ++ rest)) :
    Gives d template
      (closeStep d limit (bytes template) (byteLength passed) (bytes after) (byteLength body))
      (Scan.close d limit after body rest) := by
  have hopening : sliceBytes? (bytes template) (byteLength passed)
      (byteLength passed + byteLength d.opening.toList) = some (bytes d.opening.toList) :=
    sliceBytes?_of_split (by rw [h, List.append_assoc]) rfl rfl
  have hraw : sliceBytes? (bytes template) (byteLength passed)
      (byteLength passed + byteLength d.opening.toList + byteLength body +
        byteLength d.closing.toList) =
          some (bytes (d.opening.toList ++ body ++ d.closing.toList)) :=
    sliceBytes?_of_split (p := passed) (q := rest) (by rw [h, hafter]; simp) rfl
      (by simp only [byteLength_append]; omega)
  have hbody : sliceBytes? (bytes after) 0 (byteLength body) = some (bytes body) :=
    sliceBytes?_before hafter
  simp only [closeStep, Scan.close, octets_eq, length_bytes]
  split
  · rw [hopening]
    refine ⟨_, rfl, .text (passed ++ d.opening.toList) ?_ (byteLength_append _ _).symm⟩
    rw [h, List.append_assoc]
  · rw [hraw, hbody]
    refine ⟨_, rfl, .text (passed ++ (d.opening.toList ++ body ++ d.closing.toList)) ?_ ?_⟩
    · rw [h, hafter]
      simp
    · simp only [byteLength_append]
      omega

theorem gives_unterminatedStep (h : template = passed ++ (d.opening.toList ++ after)) :
    Gives d template (unterminatedStep (bytes template) (byteLength passed))
      (Scan.cut (.unterminated (d.opening.toList ++ after)) .done) := by
  have htext : sliceBytes? (bytes template) (byteLength passed) (byteLength template) =
      some (bytes (d.opening.toList ++ after)) := sliceBytes?_behind h rfl
  simp only [unterminatedStep, length_bytes, htext]
  exact ⟨_, rfl, .done⟩

theorem findBytes?_opening (hd : d.opening.toList ≠ []) (s : List Char) :
    findBytes? (bytes d.opening.toList) (bytes s) =
      (d.findOpening s).map fun p => byteLength p.1 := by
  rw [findBytes?_bytes, Delimiters.findOpening, if_neg (by simpa using hd)]

theorem findBytes?_closing (d : Delimiters) (s : List Char) :
    findBytes? (bytes d.closing.toList) (bytes s) =
      (d.findClosing s).map fun p => byteLength p.1 := findBytes?_bytes _ _

/-- **A call at an opening delimiter** cuts as the cutting on characters does. -/
theorem gives_insideStep (limit : Nat) (hd : d.opening.toList ≠ [])
    (h : template = passed ++ (d.opening.toList ++ after)) :
    Gives d template (insideStep d limit (bytes template) (byteLength passed))
      (Scan.afterOpening d limit after) := by
  have hafter : sliceBytes? (bytes template) (byteLength passed + byteLength d.opening.toList)
      (byteLength template) = some (bytes after) :=
    sliceBytes?_behind (p := passed ++ d.opening.toList) (by rw [h, List.append_assoc])
      (byteLength_append _ _).symm
  simp only [insideStep, octets_eq, length_bytes, hafter, Option.bind_eq_bind, Option.bind_some,
    findBytes?_opening hd, Scan.afterOpening]
  cases hopen : d.findOpening after with
  | some found =>
    obtain ⟨window, next⟩ := found
    have hsplit : after = window ++ (d.opening.toList ++ next) := by
      rw [Delimiters.findOpening_append hopen, List.append_assoc]
    have hwindow : sliceBytes? (bytes after) 0 (byteLength window) = some (bytes window) :=
      sliceBytes?_before hsplit
    simp only [Option.map_some, Option.getD_some, hwindow, Option.bind_some, findBytes?_closing]
    cases hclose : d.findClosing window with
    | some closed =>
      obtain ⟨body, rest⟩ := closed
      apply gives_closeStep h
      rw [hsplit, Delimiters.findClosing_append hclose]
      simp
    | none =>
      rw [hsplit] at h
      exact gives_restartStep hd h
  | none =>
    have hwindow : sliceBytes? (bytes after) 0 (byteLength after) = some (bytes after) :=
      sliceBytes?_before (List.append_nil after).symm
    simp only [Option.map_none, Option.getD_none, hwindow, Option.bind_some, findBytes?_closing]
    cases hclose : d.findClosing after with
    | some closed =>
      obtain ⟨body, rest⟩ := closed
      apply gives_closeStep h
      rw [Delimiters.findClosing_append hclose, List.append_assoc]
    | none => exact gives_unterminatedStep h

/-! ### Calls in text -/

theorem gives_openingStep (limit : Nat) {before : List Char} (h : template = passed ++ rest)
    (hopen : d.findOpening rest = some (before, after)) :
    Gives d template
      (openingStep d limit (bytes template) (byteLength passed) (bytes rest) (byteLength before))
      (Scan.inText d limit rest) := by
  obtain ⟨hd, hfirst⟩ := Delimiters.findOpening_eq_some_iff.1 hopen
  have hrest : rest = before ++ (d.opening.toList ++ after) := by
    rw [hfirst.split, List.append_assoc]
  have htext : sliceBytes? (bytes rest) 0 (byteLength before) = some (bytes before) :=
    sliceBytes?_before hrest
  simp only [openingStep, Scan.inText, hopen, htext, Option.bind_eq_bind, Option.bind_some,
    escapeBytes_eq, octets_eq, endsInEscape_iff, length_bytes]
  cases hescape : d.beforeEscape before with
  | some kept =>
    have hkept := Delimiters.beforeEscape_append hescape
    have hbefore : sliceBytes? (bytes before) 0 (byteLength kept) = some (bytes kept) :=
      sliceBytes?_before hkept
    have hdelimiter : sliceBytes? (bytes rest) (byteLength before)
        (byteLength before + byteLength d.opening.toList) = some (bytes d.opening.toList) :=
      sliceBytes?_of_split hfirst.split rfl rfl
    have hlength : byteLength before = byteLength kept + byteLength d.escapeText := by
      rw [hkept, byteLength_append]
    simp only [Option.isSome_some, if_true]
    rw [sub?_of_le (by omega), Option.bind_some,
      show byteLength before - byteLength d.escapeText = byteLength kept by omega, hbefore,
      Option.bind_some, hdelimiter, Option.bind_some]
    cases kept with
    | nil =>
      refine ⟨_, rfl, .text (passed ++ (before ++ d.opening.toList)) ?_ ?_⟩
      · rw [h, hrest]
        simp
      · simp only [byteLength_append]
        omega
    | cons c kept =>
      have hnonempty : ¬ (bytes (c :: kept)).isEmpty = true := by
        rw [isEmpty_bytes]
        exact Bool.false_ne_true
      rw [if_neg hnonempty, length_bytes]
      refine ⟨_, rfl, .text (passed ++ (c :: kept)) ?_ (byteLength_append _ _).symm⟩
      rw [h, hrest, hkept]
      simp
  | none =>
    simp only [Option.isSome_none, Bool.false_eq_true, if_false, isEmpty_bytes]
    split
    · next hempty =>
      rw [List.isEmpty_iff.1 hempty, List.nil_append] at hrest
      rw [List.isEmpty_iff.1 hempty]
      exact gives_insideStep limit hd (by rw [h, hrest])
    · refine ⟨_, rfl, .inside (passed ++ before) hd ?_ (byteLength_append _ _).symm⟩
      rw [h, hrest]
      simp

/-- **A call in text** cuts as the cutting on characters does. -/
theorem gives_textStep (limit : Nat) (h : template = passed ++ rest) (hne : rest ≠ []) :
    Gives d template (textStep d limit (bytes template) (byteLength passed))
      (Scan.inText d limit rest) := by
  have hrest : sliceBytes? (bytes template) (byteLength passed) (byteLength template) =
      some (bytes rest) := sliceBytes?_behind h rfl
  have hnonempty : ¬ (bytes rest).isEmpty = true := by
    rw [isEmpty_bytes, List.isEmpty_iff]
    exact hne
  simp only [textStep, length_bytes, hrest, Option.bind_eq_bind, Option.bind_some, octets_eq]
  rw [if_neg hnonempty]
  by_cases hd : d.opening.toList = []
  · have hopen : d.findOpening rest = none := Delimiters.findOpening_eq_none_iff.2 (.inl hd)
    rw [isEmpty_bytes, if_pos (List.isEmpty_iff.2 hd)]
    simp only [Scan.inText, hopen]
    exact ⟨_, rfl, .done⟩
  · rw [isEmpty_bytes, if_neg (by simpa using hd), findBytes?_opening hd]
    cases hopen : d.findOpening rest with
    | none =>
      simp only [Scan.inText, hopen]
      exact ⟨_, rfl, .done⟩
    | some found => exact gives_openingStep limit h hopen

theorem textStep_of_end (d : Delimiters) (limit : Nat) (template : List Char) :
    textStep d limit (bytes template) (byteLength template) =
      some (none, ⟨byteLength template, .done⟩) := by
  have hrest : sliceBytes? (bytes template) (byteLength template) (byteLength template) =
      some (bytes []) := sliceBytes?_behind (List.append_nil template).symm rfl
  simp only [textStep, length_bytes, hrest]
  rfl

/-! ### Calls -/

/-- **One call follows the cutting.** -/
theorem gives_next (h : At d template σ s) {cut : Cut × Scan}
    (hnext : Scan.next d limit s = some cut) :
    Gives d template (next d limit (bytes template) σ) cut := by
  cases h with
  | @text passed rest pos h hpos =>
    cases rest with
    | nil => cases hnext
    | cons c rest =>
      obtain rfl := Option.some.inj hnext
      rw [next, hpos]
      exact gives_textStep limit h (List.cons_ne_nil c rest)
  | @inside passed after pos hd h hpos =>
    obtain rfl := Option.some.inj hnext
    rw [next, hpos]
    exact gives_insideStep limit hd h
  | done => cases hnext

/-- At the end a call gives nothing, and it stays there. -/
theorem next_of_stop (h : At d template σ s) (hstop : Scan.next d limit s = none) :
    next d limit (bytes template) σ = some (none, ⟨σ.pos, .done⟩) ∧
      σ.pos = byteLength template := by
  cases h with
  | @text passed rest pos h hpos =>
    cases rest with
    | nil =>
      rw [List.append_nil] at h
      subst h hpos
      exact ⟨textStep_of_end d limit template, rfl⟩
    | cons c rest => cases hstop
  | inside passed hd h hpos => cases hstop
  | done => exact ⟨rfl, rfl⟩

/-- What a call does at a place of the cutting. -/
theorem next_cases (limit : Nat) (h : At d template σ s) :
    (∃ cut s' σ', Scan.next d limit s = some (cut, s') ∧
      next d limit (bytes template) σ = some (some cut.segment.span, σ') ∧ At d template σ' s') ∨
    (Scan.next d limit s = none ∧ next d limit (bytes template) σ = some (none, ⟨σ.pos, .done⟩) ∧
      At d template ⟨σ.pos, .done⟩ .done) := by
  cases hnext : Scan.next d limit s with
  | some cut =>
    obtain ⟨σ', hcall, hat⟩ := gives_next h hnext
    exact .inl ⟨cut.1, cut.2, σ', rfl, hcall, hat⟩
  | none =>
    obtain ⟨hcall, hpos⟩ := next_of_stop h hnext
    exact .inr ⟨rfl, hcall, hpos ▸ .done⟩

theorem Reachable.exists_at {template : List Char} (h : Reachable d limit (bytes template) σ) :
    ∃ s, At d template σ s := by
  induction h with
  | start => exact ⟨.text template, .text [] rfl rfl⟩
  | call h hcall ih =>
    obtain ⟨s, hat⟩ := ih
    rcases next_cases limit hat with ⟨cut, s', σ', -, hcut, hat'⟩ | ⟨-, hnone, hdone⟩
    · cases hcall.symm.trans hcut
      exact ⟨s', hat'⟩
    · cases hcall.symm.trans hnone
      exact ⟨.done, hdone⟩

/-- A segment takes a scanner on. -/
theorem At.pos_lt {cut : Cut} (h : At d template σ s) (h' : At d template σ' s')
    (hnext : Scan.next d limit s = some (cut, s')) : σ.pos < σ'.pos := by
  have hless := (Scan.step_of_next hnext).byteLength_remainder_lt h.sound
  have hbehind := h.pos_add_remainder
  have hbehind' := h'.pos_add_remainder
  omega

/-- Where a call gives nothing, all further ones give nothing. -/
theorem next_done (d : Delimiters) (limit : Nat) (input : List UInt8) (pos : Nat) :
    next d limit input ⟨pos, .done⟩ = some (none, ⟨pos, .done⟩) := rfl

/-- **The calls give the segments**, one after the other, and nothing behind the last one. -/
theorem calls_eq (limit : Nat) (h : At d template σ s) (n : Nat) :
    calls d limit (bytes template) σ n =
      some ((List.range n).map fun i => ((Scan.segments d limit s).map Segment.span)[i]?) := by
  induction n generalizing σ s with
  | zero => rfl
  | succ n ih =>
    rw [List.range_succ_eq_map, List.map_cons, List.map_map, calls]
    rcases next_cases limit h with ⟨cut, s', σ', hnext, hcall, hat⟩ | ⟨hnext, hcall, hat⟩
    · rw [hcall, Scan.segments_of_next hnext]
      simp only [Option.bind_eq_bind, Option.bind_some, ih hat]
      rfl
    · rw [hcall, Scan.segments_of_stop hnext]
      simp only [Option.bind_eq_bind, Option.bind_some, ih hat, Scan.segments_done]
      rfl

/-- **No call breaks off, and the calls end.** For any template, any delimiters and any limit, every
    state that calls lead to has its position in the template and in front of a character, and in a
    placeholder an opening delimiter is there. The next call does not break off: all its slices and
    differences exist. Either it gives a segment and moves on, or it gives nothing and never will
    again. The calls give the segments of the template in their order, which are not more than the
    template has bytes. -/
theorem calls_never_break (d : Delimiters) (limit : Nat) (template : String) :
    (∀ σ, Reachable d limit (octets template) σ →
      σ.pos ≤ (octets template).length ∧ isBoundary (octets template) σ.pos = true ∧
      (σ.mode = .inside →
        octets d.opening ≠ [] ∧ octets d.opening <+: (octets template).drop σ.pos) ∧
      ∃ span σ', next d limit (octets template) σ = some (span, σ') ∧
        (span.isSome = true → σ.pos < σ'.pos) ∧
        (span = none → next d limit (octets template) σ' = some (none, σ'))) ∧
    (∀ n, calls d limit (octets template) ⟨0, .text⟩ n =
      some ((List.range n).map fun i =>
        ((segments d limit template.toList).map Segment.span)[i]?)) ∧
    (segments d limit template.toList).length ≤ (octets template).length := by
  simp only [octets_eq]
  refine ⟨?_, ?_, ?_⟩
  · intro σ hσ
    obtain ⟨s, hat⟩ := hσ.exists_at
    have hpos := hat.pos_add_remainder
    refine ⟨by rw [length_bytes]; omega, hat.isBoundary, ?_, ?_⟩
    · intro hmode
      obtain ⟨hne, hprefix⟩ := hat.opening_prefix hmode
      exact ⟨mt bytes_eq_nil_iff.1 hne, hprefix⟩
    · rcases next_cases limit hat with ⟨cut, s', σ', hnext, hcall, hat'⟩ | ⟨-, hcall, -⟩
      · exact ⟨_, σ', hcall, fun _ => hat.pos_lt hat' hnext, nofun⟩
      · exact ⟨none, _, hcall, nofun, fun _ => next_done d limit _ _⟩
  · exact calls_eq limit (.text [] rfl rfl)
  · rw [length_bytes]
    exact Scan.length_segments_le d limit (.text template.toList) trivial

example : calls .standard 1024 (octets "é$\x7bñ\x7d") ⟨0, .text⟩ 3 =
    some [some (.literal [195, 169]), some (.placeholder [36, 123, 195, 177, 125] [195, 177]),
      none] := rfl

-- no call leads into a character, and there one would break off
example : next .standard 1024 (octets "é$\x7bñ\x7d") ⟨1, .text⟩ = none := rfl

end Scanner

end Stencil
