import Stencil.Proofs.Borders
import Stencil.Proofs.Escaping

/-!
# Cutting undoes writing

That segments written one behind the other are the template they were cut from is said in
`Stencil.Proofs.Cutting`. Here it is the other way round: which lists of segments are found again
when they are written with the usual punctuation. Each segment must be one that can stand alone
(`Segment.Printable`), and two that follow each other must not run into one (`Segment.Precedes`): no
literal behind a literal, and in front of a placeholder no dollar sign, which would escape it.
-/

namespace Stencil

open Text

/-! ### One segment in front of a template -/

namespace Scan

variable {d : Delimiters} {limit : Nat} {front after body rest : List Char}

theorem segments_at_opening (hd : d.opening.toList ≠ []) (after : List Char) :
    segments d limit (.text (d.opening.toList ++ after)) = segments d limit (.inside after) := by
  have hopen : d.findOpening (d.opening.toList ++ after) = some ([], after) :=
    Delimiters.findOpening_eq_some_iff.2 ⟨hd, .front _ _⟩
  rw [segments_text d limit (by simp [hd]), inText, hopen]
  simp only [d.beforeEscape_nil, List.isEmpty_nil, if_true]
  exact (segments_of_next rfl).symm

/-- Plain text that is not empty is cut off in front of an opening delimiter. -/
theorem segments_before_opening (limit : Nat) (hd : d.opening.toList ≠ []) (hfront : front ≠ [])
    (hplain : d.Plain front (d.opening.toList ++ after)) :
    segments d limit (.text (front ++ (d.opening.toList ++ after))) =
      .literal front :: segments d limit (.text (d.opening.toList ++ after)) := by
  have hrest : d.findOpening (d.opening.toList ++ after) = some ([], after) :=
    Delimiters.findOpening_eq_some_iff.2 ⟨hd, .front _ _⟩
  have hopen := hplain.findOpening_eq
  have hescape := hplain.beforeEscape_eq hrest
  rw [hrest, Option.map_some, List.append_nil] at hopen
  rw [d.beforeEscape_nil, Option.map_none, List.append_nil] at hescape
  rw [segments_text d limit (by simp [hfront]), inText, hopen]
  simp only [hescape, List.isEmpty_iff, hfront, if_false]
  rw [segments_at_opening hd]
  rfl

theorem afterOpening_of_close (limit : Nat)
    (hclose : d.findClosing (d.window after).1 = some (body, rest)) :
    afterOpening d limit after = close d limit after body (rest ++ (d.window after).2) := by
  unfold afterOpening
  unfold Delimiters.window at hclose ⊢
  cases hopen : d.findOpening after with
  | some p =>
    simp only [hopen] at hclose ⊢
    rw [hclose]
    simp
  | none =>
    simp only [hopen] at hclose ⊢
    rw [hclose]
    simp

/-- A short body between its delimiters is cut off, if nothing begins in it that ends behind it. -/
theorem segments_before_rest (hd : d.opening.toList ≠ [])
    (hsealed : d.Sealed (body ++ d.closing.toList))
    (hopen : ¬ d.opening.toList <:+: body ++ d.closing.toList)
    (hclose : FirstAt d.closing.toList (body ++ d.closing.toList) body [])
    (hlimit : byteLength body ≤ limit) (rest : List Char) :
    segments d limit (.text (d.opening.toList ++ (body ++ d.closing.toList ++ rest))) =
      .placeholder (d.opening.toList ++ body ++ d.closing.toList) body ::
        segments d limit (.text rest) := by
  have hwindow := (hsealed.plain hopen rest).window_eq
  have hfound : d.findClosing (d.window (body ++ d.closing.toList ++ rest)).1 =
      some (body, (d.window rest).1) := by
    rw [hwindow]
    exact Delimiters.findClosing_eq_some_iff.2 (hclose.append _)
  have hcut := afterOpening_of_close limit hfound
  rw [hwindow, d.window_append, close, if_neg (Nat.not_lt.2 hlimit)] at hcut
  have hnext : next d limit (.inside (body ++ d.closing.toList ++ rest)) =
      some (cut (.placeholder (d.opening.toList ++ body ++ d.closing.toList) body)
        (.text rest)) := congrArg some hcut
  rw [segments_at_opening hd]
  exact segments_of_next hnext

end Scan

/-! ### Lists of segments -/

namespace Segment

/-- A segment as it can be written: a literal that is not empty and in which no opening delimiter
    lies, an escaped delimiter, or a placeholder in whose body there is no delimiter. -/
def Printable (limit : Nat) : Segment → Prop
  | .literal t => t ≠ [] ∧ ¬ Delimiters.standard.opening.toList <:+: t
  | .escaped t => t = Delimiters.standard.opening.toList
  | .placeholder raw body =>
    raw = Delimiters.standard.opening.toList ++ body ++ Delimiters.standard.closing.toList ∧
      byteLength body ≤ limit ∧ Harmless body
  | .unterminated _ => False

/-- What may come next: no literal behind a literal, and no placeholder behind a dollar sign. -/
def Precedes : Segment → Segment → Prop
  | .literal _, .literal _ => False
  | .literal t, .placeholder _ _ => t.getLast? ≠ some '$'
  | _, _ => True

end Segment

section Written

variable {limit : Nat} {t body : List Char} {parts : List Segment}

theorem segments_written_placeholder (hbody : Harmless body) (hlimit : byteLength body ≤ limit)
    (rest : List Char) :
    Scan.segments .standard limit (.text (Delimiters.standard.opening.toList ++ body ++
        Delimiters.standard.closing.toList ++ rest)) =
      .placeholder (Delimiters.standard.opening.toList ++ body ++
        Delimiters.standard.closing.toList) body :: Scan.segments .standard limit (.text rest) := by
  have hlast : (body ++ Delimiters.standard.closing.toList).getLast? ≠ some '$' := by
    have hclosing : Delimiters.standard.closing.toList = ['\x7d'] := rfl
    rw [hclosing, List.getLast?_concat]
    decide
  have hcut := Scan.segments_before_rest (by decide) (Delimiters.sealed_standard hlast)
    hbody.not_infix_closing hbody.firstAt_closing hlimit rest
  simpa only [List.append_assoc] using hcut

/-- A literal in front of what has been written is cut off as it is. -/
theorem segments_written_literal (ht : (Segment.literal t).Printable limit)
    (hparts : ∀ s ∈ parts, s.Printable limit)
    (hnext : ∀ s ∈ parts.head?, (Segment.literal t).Precedes s) :
    Scan.segments .standard limit (.text (t ++ parts.flatMap (Segment.source .standard))) =
      .literal t ::
        Scan.segments .standard limit (.text (parts.flatMap (Segment.source .standard))) := by
  obtain ⟨hne, hfree⟩ := ht
  have hliteral : literals t = [.literal t] := if_neg hne
  cases parts with
  | nil =>
    rw [List.flatMap_nil, List.append_nil, Scan.segments_text_nil,
      Scan.segments_of_findOpening_none (Delimiters.findOpening_eq_none_iff.2 (.inr hfree)),
      hliteral]
  | cons s parts =>
    have hs := hparts s List.mem_cons_self
    have hmeets := hnext s rfl
    rw [List.flatMap_cons]
    cases s with
    | literal u => exact hmeets.elim
    | escaped u =>
      obtain rfl := hs
      have hescapable := Delimiters.escapable_standard
      have hcut := Scan.segments_before_escape hescapable limit hfree
        (parts.flatMap (Segment.source .standard))
      rw [hliteral, List.singleton_append,
        ← Scan.segments_at_escape hescapable.seesEscape] at hcut
      simpa only [Segment.source, Segment.text, List.append_assoc] using hcut
    | placeholder raw body =>
      obtain ⟨rfl, -⟩ := hs
      have hplain := (Delimiters.sealed_standard hmeets).plain hfree
      have hcut := Scan.segments_before_opening limit (by decide) hne (hplain
        (Delimiters.standard.opening.toList ++ (body ++ Delimiters.standard.closing.toList ++
          parts.flatMap (Segment.source .standard))))
      simpa only [Segment.source, Segment.text, List.append_assoc] using hcut
    | unterminated u => exact hs.elim

end Written

/-- **Cutting undoes writing.** Take literals that are not empty and hold no opening delimiter,
    escaped delimiters, and placeholders whose bodies are not too long and hold no delimiter, such
    that no literal follows another one and none that ends with a dollar sign stands in front of a
    placeholder. Written one behind the other with the usual punctuation, they are cut into exactly
    these segments. -/
theorem segments_written {limit : Nat} {parts : List Segment}
    (hparts : ∀ s ∈ parts, s.Printable limit) (hchain : parts.IsChain Segment.Precedes) :
    segments .standard limit (parts.flatMap (Segment.source .standard)) = parts := by
  change Scan.segments .standard limit (.text _) = parts
  induction parts with
  | nil => exact Scan.segments_text_nil _ _
  | cons s parts ih =>
    obtain ⟨hs, hrest⟩ := List.forall_mem_cons.1 hparts
    rw [List.isChain_cons] at hchain
    obtain ⟨hnext, hchain⟩ := hchain
    have ih := ih hrest hchain
    rw [List.flatMap_cons]
    cases s with
    | literal t =>
      have hcut := segments_written_literal hs hrest hnext
      rw [ih] at hcut
      exact hcut
    | escaped t =>
      obtain rfl := hs
      have hcut := Scan.segments_at_escape Delimiters.escapable_standard.seesEscape limit
        (parts.flatMap (Segment.source .standard))
      rw [ih] at hcut
      exact hcut
    | placeholder raw body =>
      obtain ⟨rfl, hlimit, hbody⟩ := hs
      have hcut := segments_written_placeholder hbody hlimit
        (parts.flatMap (Segment.source .standard))
      rw [ih] at hcut
      exact hcut
    | unterminated t => exact hs.elim

/-- Dollar signs and braces wherever they may stand. -/
def Segment.borderline : List Segment :=
  [.literal "$\x7d$".toList, .escaped "$\x7b".toList, .placeholder "$\x7b$\x7d".toList "$".toList,
    .escaped "$\x7b".toList, .placeholder "$\x7b\x7b\x7d".toList "\x7b".toList,
    .literal "\x7b".toList, .placeholder "$\x7b\x7d".toList [], .literal "$".toList]

theorem segments_written_borderline :
    (∀ s ∈ Segment.borderline, s.Printable 1) ∧ Segment.borderline.IsChain Segment.Precedes ∧
      segments .standard 1
        "$\x7d$$$\x7b$\x7b$\x7d$$\x7b$\x7b\x7b\x7d\x7b$\x7b\x7d$".toList = Segment.borderline := by
  have hparts : ∀ s ∈ Segment.borderline, s.Printable 1 := by
    intro s hs
    simp only [Segment.borderline, List.mem_cons, List.not_mem_nil, or_false] at hs
    rcases hs with rfl | rfl | rfl | rfl | rfl | rfl | rfl | rfl <;>
      simp only [Segment.Printable, Harmless.iff_isChain] <;> decide
  have hchain : Segment.borderline.IsChain Segment.Precedes := by
    simp [Segment.borderline, Segment.Precedes]
  have hwritten : Segment.borderline.flatMap (Segment.source .standard) =
      "$\x7d$$$\x7b$\x7b$\x7d$$\x7b$\x7b\x7b\x7d\x7b$\x7b\x7d$".toList := by decide
  have hcut := segments_written hparts hchain
  rw [hwritten] at hcut
  exact ⟨hparts, hchain, hcut⟩

end Stencil
