import Stencil.Number.Reading

/-!
# Numerals

What the readers of whole numbers accept, said without them: one or more decimal digits, of any
number of leading zeros, and the number that they write in the usual way (`Number.Writes`). A reader
with a bound reads the numerals of the numbers up to it and nothing else. A reader of integers takes
a sign in front besides (`Number.WritesInteger`), and what is printed of an integer is read as it.
-/

namespace Stencil.Number

variable {s : List Char} {n most acc : Nat}

/-- One or more decimal digits, and the number that they write. -/
structure Writes (digits : List Char) (n : Nat) : Prop where
  nonempty : digits ≠ []
  decimal : ∀ c ∈ digits, c.isDigit = true
  value : Nat.ofDigitChars 10 digits 0 = n

theorem Writes.unique {m : Nat} (h : Writes s n) (h' : Writes s m) : n = m :=
  h.value.symm.trans h'.value

theorem digit?_ten (c : Char) :
    digit? 10 c = if c.isDigit = true then some (c.toNat - '0'.toNat) else none := by
  rw [digit?]
  by_cases h : c.isDigit = true
  · obtain ⟨hzero, hnine⟩ := Char.isDigit_iff_toNat.1 h
    have hlt : c.toNat - '0'.toNat < 10 :=
      Nat.sub_lt_left_of_lt_add hzero (Nat.lt_succ_of_le hnine)
    simp only [if_pos h, Option.filter_some, decide_eq_true hlt, if_true]
  · have hge (k : Nat) : ¬ k + 10 < 10 := by omega
    simp only [if_neg h]
    split
    · simp only [Option.filter_some, decide_eq_false (hge _), Bool.false_eq_true, if_false]
    · split
      · simp only [Option.filter_some, decide_eq_false (hge _), Bool.false_eq_true, if_false]
      · rfl

theorem digitsFrom?_eq_some_iff :
    digitsFrom? 10 acc s = some n ↔
      (∀ c ∈ s, c.isDigit = true) ∧ Nat.ofDigitChars 10 s acc = n := by
  induction s generalizing acc with
  | nil => simp [digitsFrom?]
  | cons c s ih =>
    rw [digitsFrom?, digit?_ten, List.forall_mem_cons, Nat.ofDigitChars_cons]
    by_cases h : c.isDigit = true
    · rw [if_pos h, Option.bind_some, ih, and_iff_right h]
    · rw [if_neg h, Option.bind_none]
      simp [h]

theorem digits?_eq_some_iff : digits? 10 s = some n ↔ Writes s n := by
  rw [digits?]
  by_cases h : s = []
  · rw [if_pos (List.isEmpty_iff.2 h)]
    exact ⟨nofun, fun hs => absurd h hs.nonempty⟩
  · rw [if_neg (mt List.isEmpty_iff.1 h), digitsFrom?_eq_some_iff]
    constructor
    · rintro ⟨hdecimal, hvalue⟩
      exact ⟨h, hdecimal, hvalue⟩
    · intro hs
      exact ⟨hs.decimal, hs.value⟩

/-- The numerals up to a bound, with or without a plus in front, are what is read. -/
theorem natural?_eq_some_iff :
    natural? 10 most s = some n ↔
      ∃ digits, (s = digits ∨ s = '+' :: digits) ∧ Writes digits n ∧ n ≤ most := by
  have hread : ∀ digits, (digits? 10 digits).filter (· ≤ most) = some n ↔
      Writes digits n ∧ n ≤ most := by
    intro digits
    rw [Option.filter_eq_some_iff, digits?_eq_some_iff, decide_eq_true_eq]
  unfold natural?
  dsimp only
  split
  · next rest =>
    rw [hread]
    constructor
    · intro h
      exact ⟨rest, .inr rfl, h⟩
    · rintro ⟨digits, rfl | hplus, hdigits, hmost⟩
      · -- a plus is no digit
        have hno := hdigits.decimal '+' List.mem_cons_self
        cases hno
      · obtain rfl := (List.cons.inj hplus).2
        exact ⟨hdigits, hmost⟩
  · next hplus =>
    rw [hread]
    constructor
    · intro h
      exact ⟨s, .inl rfl, h⟩
    · rintro ⟨digits, rfl | rfl, h⟩
      · exact h
      · exact absurd rfl (hplus digits)

/-! ### Numerals with a sign -/

/-- An integer in decimal: a numeral, with a sign in front of it or without one. -/
inductive WritesInteger : List Char → Int → Prop
  | unsigned {s : List Char} {n : Nat} (h : Writes s n) : WritesInteger s n
  | plus {s : List Char} {n : Nat} (h : Writes s n) : WritesInteger ('+' :: s) n
  | minus {s : List Char} {n : Nat} (h : Writes s n) : WritesInteger ('-' :: s) (-n)

theorem map_digits?_eq_some_iff {f : Nat → Int} {i : Int} :
    (digits? 10 s).map f = some i ↔ ∃ n, Writes s n ∧ f n = i := by
  simp only [Option.map_eq_some_iff, digits?_eq_some_iff]

/-- No numeral begins with a sign. -/
theorem not_writes_cons {c : Char} (hc : c.isDigit = false) : ¬ Writes (c :: s) n := by
  intro h
  have hdigit := h.decimal c List.mem_cons_self
  rw [hc] at hdigit
  cases hdigit

/-- The integers of a range, in decimal and with or without a sign, are what is read. -/
theorem integer?_eq_some_iff {least most i : Int} :
    integer? 10 least most s = some i ↔ WritesInteger s i ∧ least ≤ i ∧ i ≤ most := by
  unfold integer?
  dsimp only
  rw [Option.filter_eq_some_iff, Bool.and_eq_true, decide_eq_true_eq, decide_eq_true_eq]
  refine and_congr_left fun _ => ?_
  split
  · next rest =>
    have hlift : (do let n ← digits? 10 rest; pure (n : Int)) = (digits? 10 rest).map Int.ofNat :=
      Option.map_eq_bind.symm
    rw [hlift, Option.map_map, map_digits?_eq_some_iff]
    constructor
    · rintro ⟨n, hn, rfl⟩
      exact .minus hn
    · rintro (hn | hn | hn)
      · exact absurd hn (not_writes_cons rfl)
      · exact ⟨_, hn, rfl⟩
  · next rest =>
    rw [map_digits?_eq_some_iff]
    constructor
    · rintro ⟨n, hn, rfl⟩
      exact .plus hn
    · rintro (hn | hn)
      · exact absurd hn (not_writes_cons rfl)
      · exact ⟨_, hn, rfl⟩
  · next hminus hplus =>
    rw [map_digits?_eq_some_iff]
    constructor
    · rintro ⟨n, hn, rfl⟩
      exact .unsigned hn
    · rintro (hn | hn | hn)
      · exact ⟨_, hn, rfl⟩
      · exact absurd rfl (hplus _)
      · exact absurd rfl (hminus _)

theorem writes_toDigits (n : Nat) : Writes (Nat.toDigits 10 n) n where
  nonempty := Nat.toDigits_ne_nil
  decimal _ hc := Nat.isDigit_of_mem_toDigits (by decide) (by decide) hc
  value := Nat.ofDigitChars_ten_toDigits

/-- Only zero is printed with a zero in front. -/
theorem head?_toDigits_ne (n : Nat) (h : Nat.toDigits 10 n ≠ ['0']) :
    (Nat.toDigits 10 n).head? ≠ some '0' := by
  induction n using Nat.strongRecOn with
  | ind n ih =>
    by_cases hlt : n < 10
    · rw [Nat.toDigits_of_lt_base hlt] at h ⊢
      intro hhead
      exact h (congrArg (fun c => [c]) (Option.some.inj hhead))
    · have hle : 10 ≤ n := Nat.le_of_not_lt hlt
      have hzero : Nat.toDigits 10 (n / 10) ≠ ['0'] := by
        intro hdigits
        have hvalue := (writes_toDigits (n / 10)).value
        rw [hdigits] at hvalue
        have hsmall : 0 = n / 10 := hvalue
        omega
      have hfirst := ih (n / 10) (by omega) hzero
      rw [Nat.toDigits_of_base_le (by decide) hle]
      cases hdigits : Nat.toDigits 10 (n / 10) with
      | nil => exact absurd hdigits Nat.toDigits_ne_nil
      | cons c digits =>
        rw [hdigits] at hfirst
        exact hfirst

/-- Printed integers are read back. -/
theorem writesInteger_toString (i : Int) : WritesInteger (toString i).toList i := by
  rw [Int.toString_eq_repr, Int.repr_eq_if]
  split
  · next hi =>
    rw [Nat.toList_repr]
    have hn := WritesInteger.unsigned (writes_toDigits i.toNat)
    rwa [Int.toNat_of_nonneg hi] at hn
  · next hi =>
    have hn := WritesInteger.minus (writes_toDigits (-i).toNat)
    rw [Int.toNat_of_nonneg (by omega), Int.neg_neg] at hn
    rwa [String.toList_append, Nat.toList_repr]

theorem WritesInteger.isDigit_or_sign {i : Int} (h : WritesInteger s i) :
    ∀ c ∈ s, c.isDigit = true ∨ c = '+' ∨ c = '-' := by
  intro c hc
  cases h with
  | unsigned h => exact .inl (h.decimal c hc)
  | plus h =>
    rcases List.mem_cons.1 hc with rfl | hc
    · exact .inr (.inl rfl)
    · exact .inl (h.decimal c hc)
  | minus h =>
    rcases List.mem_cons.1 hc with rfl | hc
    · exact .inr (.inr rfl)
    · exact .inl (h.decimal c hc)

end Stencil.Number
