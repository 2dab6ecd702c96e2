import Stencil.Proofs.Histories
import Stencil.Template.Body

/-!
# Blanks and trimming

A text is trimmed if it neither begins nor ends with a blank (`Trimmed`). Trimming finds the trimmed
text between blanks (`Trimmed.trim`), and there always is one (`exists_trim`).
-/

namespace Stencil

namespace Text

variable {s t b₁ b₂ rest : List Char} {c : Char}

/-! ### Blanks -/

/-- A text of blanks only. -/
def Blanks (s : List Char) : Prop := ∀ c ∈ s, isBlank c = true

theorem Blanks.nil : Blanks [] := List.forall_mem_nil _

theorem Blanks.append (h₁ : Blanks b₁) (h₂ : Blanks b₂) : Blanks (b₁ ++ b₂) := by
  intro c hc
  rcases List.mem_append.1 hc with hc | hc
  · exact h₁ c hc
  · exact h₂ c hc

theorem not_isBlank_of_isNameChar {c : Char} (h : isNameChar c = true) : isBlank c = false := by
  have hspan : 48 ≤ c.toNat ∧ c.toNat ≤ 122 := by
    simp only [isNameChar, Char.isAlphanum, Char.isAlpha, Char.isUpper, Char.isLower,
      Char.isDigit, Bool.or_eq_true, Bool.and_eq_true, decide_eq_true_eq, beq_iff_eq, ge_iff_le,
      UInt32.le_iff_toNat_le] at h
    change (((65 ≤ c.toNat ∧ c.toNat ≤ 90) ∨ (97 ≤ c.toNat ∧ c.toNat ≤ 122)) ∨
      (48 ≤ c.toNat ∧ c.toNat ≤ 57)) ∨ c = '_' at h
    rcases h with h | rfl
    · omega
    · decide
  simp only [isBlank, Bool.or_eq_false_iff, Bool.and_eq_false_iff, decide_eq_false_iff_not,
    beq_eq_false_iff_ne]
  omega

theorem not_isNameChar_of_isBlank {c : Char} (h : isBlank c = true) : isNameChar c = false := by
  by_contra hname
  rw [Bool.not_eq_false] at hname
  rw [not_isBlank_of_isNameChar hname] at h
  cases h

theorem exists_cons_of_isIdentifier {name : String} (h : isIdentifier name = true) :
    ∃ c cs, name.toList = c :: cs ∧ isNameChar c = true := by
  obtain ⟨hne, hchars⟩ := isIdentifier_iff.1 h
  obtain ⟨c, cs, hcons⟩ := List.exists_cons_of_ne_nil hne
  exact ⟨c, cs, hcons, hchars c (hcons ▸ List.mem_cons_self)⟩

theorem trimLeft_blanks {b : List Char} (hb : Blanks b) (s : List Char) :
    trimLeft (b ++ s) = trimLeft s := by
  induction b with
  | nil => rfl
  | cons c b ih =>
    obtain ⟨hc, hb⟩ := List.forall_mem_cons.1 hb
    rw [← ih hb, trimLeft, List.cons_append, List.dropWhile_cons_of_pos hc]
    rfl

theorem trimLeft_cons {c : Char} (hc : isBlank c = false) (s : List Char) :
    trimLeft (c :: s) = c :: s := by
  rw [trimLeft, List.dropWhile_cons_of_neg (by rw [hc]; exact Bool.false_ne_true)]

theorem trimRight_blanks {b : List Char} (hb : Blanks b) (s : List Char) {c : Char}
    (hc : isBlank c = false) : trimRight (s ++ [c] ++ b) = s ++ [c] := by
  have hrev : Blanks b.reverse := fun a ha => hb a (List.mem_reverse.1 ha)
  have hleft := trimLeft_blanks hrev (c :: s.reverse)
  rw [trimLeft_cons hc] at hleft
  rw [trimRight, List.reverse_append, List.reverse_append, List.reverse_singleton]
  change (trimLeft (b.reverse ++ (c :: s.reverse))).reverse = s ++ [c]
  rw [hleft, List.reverse_cons, List.reverse_reverse]

theorem takeWhile_append_cons {p : Char → Bool} {s : List Char} {c : Char}
    (hs : ∀ a ∈ s, p a = true) (hc : p c = false) (rest : List Char) :
    (s ++ c :: rest).takeWhile p = s ∧ (s ++ c :: rest).dropWhile p = c :: rest := by
  have hneg : ¬ p c = true := by rw [hc]; exact Bool.false_ne_true
  constructor
  · rw [List.takeWhile_append_of_pos hs, List.takeWhile_cons_of_neg hneg, List.append_nil]
  · rw [List.dropWhile_append_of_pos hs, List.dropWhile_cons_of_neg hneg]

/-! ### Trimming -/

/-- A text that neither begins nor ends with a blank. -/
structure Trimmed (s : List Char) : Prop where
  first : ∀ c ∈ s.head?, isBlank c = false
  last : ∀ c ∈ s.getLast?, isBlank c = false

theorem trimLeft_eq_nil_iff : trimLeft s = [] ↔ Blanks s := List.dropWhile_eq_nil_iff

theorem exists_trimLeft (s : List Char) : ∃ b, Blanks b ∧ s = b ++ trimLeft s :=
  ⟨s.takeWhile isBlank, fun _ ha => List.mem_takeWhile_imp ha,
    List.takeWhile_append_dropWhile.symm⟩

theorem not_isBlank_of_mem_head? (h : c ∈ (trimLeft s).head?) : isBlank c = false := by
  have hhead := List.head?_dropWhile_not isBlank s
  rw [← trimLeft, Option.mem_def.1 h] at hhead
  simpa using hhead

theorem trimLeft_eq_cons_iff :
    trimLeft s = c :: rest ↔ isBlank c = false ∧ ∃ b, Blanks b ∧ s = b ++ c :: rest := by
  constructor
  · intro h
    obtain ⟨b, hb, hs⟩ := exists_trimLeft s
    refine ⟨not_isBlank_of_mem_head? (s := s) (by rw [h]; rfl), b, hb, ?_⟩
    rw [← h]
    exact hs
  · rintro ⟨hc, b, hb, rfl⟩
    rw [trimLeft_blanks hb, trimLeft_cons hc]

theorem exists_trimRight (s : List Char) : ∃ b, Blanks b ∧ s = trimRight s ++ b := by
  obtain ⟨b, hb, hs⟩ := exists_trimLeft s.reverse
  refine ⟨b.reverse, fun c hc => hb c (List.mem_reverse.1 hc), ?_⟩
  have hrev := congrArg List.reverse hs
  rw [List.reverse_reverse, List.reverse_append] at hrev
  exact hrev

theorem not_isBlank_of_mem_getLast? (h : c ∈ (trimRight s).getLast?) : isBlank c = false := by
  rw [trimRight, List.getLast?_reverse] at h
  exact not_isBlank_of_mem_head? (s := s.reverse) h

theorem trimLeft_of_first (h : ∀ c ∈ s.head?, isBlank c = false) : trimLeft s = s := by
  cases s with
  | nil => rfl
  | cons c s => exact trimLeft_cons (h c rfl) s

/-- Trimming takes off the blanks around a trimmed text. -/
theorem Trimmed.trim (ht : Trimmed t) (h₁ : Blanks b₁) (h₂ : Blanks b₂) :
    trim (b₁ ++ t ++ b₂) = t := by
  rcases List.eq_nil_or_concat' t with rfl | ⟨u, c, rfl⟩
  · rw [List.append_nil, Text.trim, trimLeft_eq_nil_iff.2 (h₁.append h₂)]
    rfl
  · have hleft : trimLeft (b₁ ++ (u ++ [c]) ++ b₂) = u ++ [c] ++ b₂ := by
      rw [List.append_assoc, trimLeft_blanks h₁]
      apply trimLeft_of_first
      intro a ha
      rw [List.head?_append_of_ne_nil _ (by simp)] at ha
      exact ht.first a ha
    rw [Text.trim, hleft]
    exact trimRight_blanks h₂ u (ht.last c (List.getLast?_concat))

/-- What comes first in the end came first behind the blanks in front. -/
theorem mem_head?_trimLeft (h : c ∈ (trim s).head?) : c ∈ (trimLeft s).head? := by
  obtain ⟨b, -, hs⟩ := exists_trimRight (trimLeft s)
  rw [trim, Option.mem_def] at h
  rw [hs, List.head?_append, h]
  rfl

/-- What trimming takes off is blank, and what it leaves is trimmed. -/
theorem exists_trim (s : List Char) :
    ∃ b₁ b₂, Blanks b₁ ∧ Blanks b₂ ∧ Trimmed (trim s) ∧ s = b₁ ++ trim s ++ b₂ := by
  obtain ⟨b₁, h₁, hs⟩ := exists_trimLeft s
  obtain ⟨b₂, h₂, ht⟩ := exists_trimRight (trimLeft s)
  refine ⟨b₁, b₂, h₁, h₂, ⟨?_, ?_⟩, ?_⟩
  · intro c hc
    exact not_isBlank_of_mem_head? (mem_head?_trimLeft hc)
  · intro c hc
    exact not_isBlank_of_mem_getLast? hc
  · rw [List.append_assoc, trim, ← ht]
    exact hs

theorem trim_eq_nil_iff : trim s = [] ↔ Blanks s := by
  constructor
  · intro h
    obtain ⟨b₁, b₂, h₁, h₂, -, hs⟩ := exists_trim s
    rw [h, List.append_nil] at hs
    rw [hs]
    exact h₁.append h₂
  · intro h
    rw [trim, trimLeft_eq_nil_iff.2 h]
    rfl

end Text

end Stencil
