import Mathlib
import Stencil.Expression.Time

/-!
# The window of random times

A number below `n` is drawn by multiplying a random word by `n` and taking what lies above the word;
a second word is looked at only where it could still carry into that. Both words together are one
number of twice the length, and what is drawn is the part above it of its product with `n`
(`Words.below_fst`). So a draw never leaves its range, and the carry cannot push it over the end. If
the range is at most half as long as there are words, each of its numbers is drawn for some first
word, whatever comes behind it (`Words.exists_first_below`).

A random time therefore lies in the window around the current one, and every time of the window is
drawn for some first word.
-/

namespace Stencil

namespace Words

/-! ### Products of words -/

variable {m n k first second : Nat}

/-- The second word decides on a carry only where the low half is close to the end. -/
theorem carry_eq (hpos : 0 < n) (hn : n ≤ m) (hsecond : second < m) (low : Nat) (hlow : low < m) :
    (if m - n < low then if m ≤ low + second * n / m then 1 else 0 else 0) =
      (low + second * n / m) / m := by
  have hcarry : second * n / m < n := by
    apply Nat.div_lt_of_lt_mul
    exact Nat.mul_lt_mul_of_pos_right hsecond hpos
  by_cases hfull : m ≤ low + second * n / m
  · rw [if_pos (by omega), if_pos hfull]
    exact (Nat.div_eq_of_lt_le (by omega) (by omega)).symm
  · rw [if_neg hfull, ite_self, Nat.div_eq_of_lt (by omega)]

/-- The product of two words with a bound, split behind the first one. -/
theorem product_div (hm : 0 < m) :
    (first * m + second) * n / (m * m) =
      first * n / m + (first * n % m + second * n / m) / m := by
  calc (first * m + second) * n / (m * m)
      = (second * n + m * (first * n)) / m / m := by
        rw [Nat.div_div_eq_div_mul]
        congr 1
        ring
    _ = (second * n / m + first * n) / m := by rw [Nat.add_mul_div_left _ _ hm]
    _ = (first * n % m + second * n / m + m * (first * n / m)) / m := by
        congr 1
        have hsplit := Nat.mod_add_div (first * n) m
        omega
    _ = first * n / m + (first * n % m + second * n / m) / m := by
        rw [Nat.add_mul_div_left _ _ hm, Nat.add_comm]

/-- Some word has a product with `n` that begins a given multiple of `m`, and by less than `n`. -/
theorem exists_product (hk : k < n) (hn : n ≤ m) :
    ∃ first < m, ∃ low < n, first * n = k * m + low := by
  refine ⟨(k * m + (n - 1)) / n, ?_, ?_⟩
  · apply Nat.div_lt_of_lt_mul
    have hrows : (k + 1) * m ≤ n * m := Nat.mul_le_mul_right m hk
    rw [Nat.add_mul, Nat.one_mul] at hrows
    omega
  · refine ⟨n - 1 - (k * m + (n - 1)) % n, by omega, ?_⟩
    have hsplit := Nat.div_add_mod' (k * m + (n - 1)) n
    have hrest := Nat.mod_lt (k * m + (n - 1)) (Nat.zero_lt_of_lt hk)
    omega

/-! ### Draws below a bound -/

theorem next_eq (w : Words) :
    w.next = ((w.word w.used).toNat, { w with used := w.used + 1 }) := rfl

theorem below_eq (w : Words) (n : Nat) : (w.below n).1 =
    (w.word w.used).toNat * n / span +
      if span - n < (w.word w.used).toNat * n % span then
        if span ≤ (w.word w.used).toNat * n % span + (w.word (w.used + 1)).toNat * n / span then 1
        else 0
      else 0 := by
  rw [below, next_eq]
  dsimp only
  by_cases hlow : span - n < (w.word w.used).toNat * n % span
  · rw [if_pos hlow, if_pos hlow, next_eq]
  · rw [if_neg hlow, if_neg hlow]
    rfl

theorem toNat_lt_span (x : UInt64) : x.toNat < span := x.toNat_lt

/-- **A draw is the high part of one product**: of the bound and the next two words. -/
theorem below_fst (w : Words) (hpos : 0 < n) (hn : n ≤ span) :
    (w.below n).1 = ((w.word w.used).toNat * span + (w.word (w.used + 1)).toNat) * n /
      (span * span) := by
  have hspan : 0 < span := by omega
  rw [below_eq, carry_eq hpos hn (toNat_lt_span _) _ (Nat.mod_lt _ hspan), product_div hspan]

theorem below_lt (w : Words) (hpos : 0 < n) (hn : n ≤ span) : (w.below n).1 < n := by
  rw [below_fst w hpos hn]
  apply Nat.div_lt_of_lt_mul
  apply Nat.mul_lt_mul_of_pos_right _ hpos
  have hfirst := toNat_lt_span (w.word w.used)
  have hsecond := toNat_lt_span (w.word (w.used + 1))
  have hrows : ((w.word w.used).toNat + 1) * span ≤ span * span := Nat.mul_le_mul_right span hfirst
  rw [Nat.add_mul, Nat.one_mul] at hrows
  omega

/-- Every number of a range of at most half as many numbers as there are words is drawn for some
    first word, whatever comes behind it. -/
theorem exists_first_below (hk : k < n) (hn : n + n ≤ span) :
    ∃ first : UInt64, ∀ w : Words, w.word w.used = first → (w.below n).1 = k := by
  obtain ⟨first, hfirst, low, hlow, hproduct⟩ := exists_product hk (m := span) (by omega)
  refine ⟨first.toUInt64, ?_⟩
  intro w hw
  have hword : (w.word w.used).toNat = first := by
    rw [hw]
    exact UInt64.toNat_ofNat_of_lt' hfirst
  rw [below_eq, hword, hproduct, Nat.mul_comm k, Nat.mul_add_div (by omega),
    Nat.mul_add_mod, Nat.mod_eq_of_lt (by omega), Nat.div_eq_of_lt (by omega), if_neg (by omega)]
  rfl

/-- Every number below a bound is drawn from some words. -/
theorem exists_below (hk : k < n) (hn : n ≤ span) : ∃ w : Words, (w.below n).1 = k := by
  have hspan : 0 < span := Nat.lt_of_lt_of_le (Nat.zero_lt_of_lt hk) hn
  obtain ⟨both, hboth, low, hlow, hproduct⟩ :=
    exists_product hk (m := span * span) (hn.trans (Nat.le_mul_self span))
  refine ⟨⟨fun i => if i = 0 then (both / span).toUInt64 else (both % span).toUInt64, 0⟩, ?_⟩
  rw [below_fst _ (Nat.zero_lt_of_lt hk) hn]
  have hfirst : (both / span).toUInt64.toNat = both / span :=
    UInt64.toNat_ofNat_of_lt' (Nat.div_lt_of_lt_mul hboth)
  have hsecond : (both % span).toUInt64.toNat = both % span :=
    UInt64.toNat_ofNat_of_lt' (Nat.mod_lt _ hspan)
  have hlt : low < span * span := by
    have hself := Nat.le_mul_self span
    omega
  simp only [if_pos, if_neg (Nat.succ_ne_zero 0), hfirst, hsecond]
  rw [Nat.div_add_mod', hproduct, Nat.mul_comm k, Nat.mul_add_div (Nat.mul_pos hspan hspan),
    Nat.div_eq_of_lt hlt, Nat.add_zero]

/-! ### Draws from a range of integers -/

variable {low high i : Int}

theorem within_fst (w : Words) (low high : Int) :
    (w.within low high).1 = low + (w.below (high - low + 1).toNat).1 := by
  rw [within]

theorem within_mem (w : Words) (h : low ≤ high) (hlength : (high - low + 1).toNat ≤ span) :
    low ≤ (w.within low high).1 ∧ (w.within low high).1 ≤ high := by
  have hlt := w.below_lt (n := (high - low + 1).toNat) (by omega) hlength
  rw [within_fst]
  omega

theorem exists_within (hlow : low ≤ i) (hhigh : i ≤ high)
    (hlength : (high - low + 1).toNat ≤ span) : ∃ w : Words, (w.within low high).1 = i := by
  obtain ⟨w, hw⟩ := exists_below (k := (i - low).toNat) (n := (high - low + 1).toNat) (by omega)
    hlength
  refine ⟨w, ?_⟩
  rw [within_fst, hw]
  omega

theorem exists_first_within (hlow : low ≤ i) (hhigh : i ≤ high)
    (hlength : (high - low + 1).toNat + (high - low + 1).toNat ≤ span) :
    ∃ first : UInt64, ∀ w : Words, w.word w.used = first → (w.within low high).1 = i := by
  obtain ⟨first, hfirst⟩ := exists_first_below (k := (i - low).toNat)
    (n := (high - low + 1).toNat) (by omega) hlength
  refine ⟨first, ?_⟩
  intro w hw
  rw [within_fst, hfirst w hw]
  omega

end Words

theorem Calendar.covers_iff {time : Int} :
    covers time = true ↔ earliest ≤ time ∧ time ≤ latest := by
  rw [covers, Bool.and_eq_true, decide_eq_true_eq, decide_eq_true_eq]

namespace Time

open Calendar

/-- The random number of milliseconds by which a draw moves away from the current time. -/
def offset (r : Int) (words : Words) : Int := (words.within (-r) r).1

/-- A time from a window of any length. With the length left open nothing evaluates the product of
    the random words, which is what happens to `draw` when it is opened. -/
def drawAround [Dice] (r now : Int) (words : Words) : Int × Words :=
  let (offset, words) := Dice.integer words 64 (-r) r
  (if covers (now + offset) then now + offset else now, words)

theorem draw_eq [Dice] : draw = drawAround reach := rfl

variable {r i : Int}

theorem drawAround_fst (r now : Int) (words : Words) : (drawAround r now words).1 =
    if covers (now + offset r words) = true then now + offset r words else now := rfl

theorem offset_mem (words : Words) (hr : 0 ≤ r) (hlength : (r - -r + 1).toNat ≤ Words.span) :
    -r ≤ offset r words ∧ offset r words ≤ r :=
  words.within_mem (by omega) hlength

theorem exists_first_offset (hlow : -r ≤ i) (hhigh : i ≤ r)
    (hlength : (r - -r + 1).toNat + (r - -r + 1).toNat ≤ Words.span) :
    ∃ first : UInt64, ∀ words : Words, words.word words.used = first → offset r words = i :=
  Words.exists_first_within hlow hhigh hlength

theorem reach_nonneg : 0 ≤ reach := by decide

/-- There are more words than twice as many milliseconds as the window has. -/
theorem length_window_le :
    (reach - -reach + 1).toNat + (reach - -reach + 1).toNat ≤ Words.span := by decide

/-- **Random times fill the window.** For every time of the calendar and all random words, the time
    that is drawn belongs to the calendar and lies in the window around the current time: it is the
    current time moved by the offset that was drawn, or the current time itself if the calendar does
    not have the other one. If the calendar has the whole window, every millisecond of it, both ends
    included and in front of 1970 as well as behind, is drawn for some first word. -/
theorem draw_fills_window (now : Int) (hnow : covers now = true) :
    (∀ words, covers (draw now words).1 = true ∧
      now - reach ≤ (draw now words).1 ∧ (draw now words).1 ≤ now + reach ∧
      (covers (now + offset reach words) = true →
        (draw now words).1 = now + offset reach words) ∧
      (covers (now + offset reach words) = false → (draw now words).1 = now)) ∧
    (covers (now - reach) = true → covers (now + reach) = true →
      ∀ time, now - reach ≤ time → time ≤ now + reach →
        ∃ first : UInt64, ∀ words : Words, words.word words.used = first →
          (draw now words).1 = time) := by
  have hreach := reach_nonneg
  have hlength := length_window_le
  rw [draw_eq]
  generalize reach = r at hreach hlength
  constructor
  · intro words
    obtain ⟨hlow, hhigh⟩ := offset_mem words hreach (by omega)
    rw [drawAround_fst]
    by_cases hcovers : covers (now + offset r words) = true
    · rw [if_pos hcovers]
      exact ⟨hcovers, by omega, by omega, fun _ => rfl, fun h => absurd hcovers (by simp [h])⟩
    · rw [if_neg hcovers]
      exact ⟨hnow, by omega, by omega, fun h => absurd h hcovers, fun _ => rfl⟩
  · intro hfirst hlast time hlow hhigh
    rw [covers_iff] at hfirst hlast
    have hcovers : covers time = true := covers_iff.2 ⟨by omega, by omega⟩
    obtain ⟨first, hoffset⟩ := exists_first_offset (r := r) (i := time - now) (by omega)
      (by omega) hlength
    refine ⟨first, ?_⟩
    intro words hwords
    have htime : now + (time - now) = time := by omega
    rw [drawAround_fst, hoffset words hwords, htime, if_pos hcovers]

/-- Shortly before 1970, at both ends of the window. -/
theorem draw_fills_window_before_1970 :
    covers (-5) = true ∧
      (∀ words, -5 - reach ≤ (draw (-5) words).1 ∧ (draw (-5) words).1 ≤ -5 + reach) ∧
      (∃ first : UInt64, ∀ words : Words, words.word words.used = first →
        (draw (-5) words).1 = -1000000000005) ∧
      ∃ first : UInt64, ∀ words : Words, words.word words.used = first →
        (draw (-5) words).1 = 999999999995 := by
  obtain ⟨hdraw, hall⟩ := draw_fills_window (-5) (by decide)
  have hends := hall (by decide) (by decide)
  refine ⟨by decide, ?_, hends _ (by decide) (by decide), hends _ (by decide) (by decide)⟩
  intro words
  obtain ⟨-, hlow, hhigh, -⟩ := hdraw words
  exact ⟨hlow, hhigh⟩

end Time

end Stencil
