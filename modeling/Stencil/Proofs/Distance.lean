import Stencil.Proofs.Edits
import Stencil.Text.Distance

/-!
# Computing the distance

The rows of `editDistance` hold the distances from a beginning of the first text to all beginnings
of the second one. Beginnings grow at their ends and alignments at their fronts, so both texts are
kept here in reverse: the row of `p` is `row b p`, and a new character is put in front of `p`.

One cell is computed from its neighbours and from one further cell, by way of a swap with the last
places of the two characters (`leastEdits_cons_cons`). A swap with earlier places is not cheaper,
since what is passed over costs as much between the two swapped characters as in front of them. The
rows that are kept for the swaps are those of the last place of every character (`Kept`).
-/

namespace Stencil.Text

def behind? (c : Char) : List Char → Option (List Char)
  | [] => none
  | x :: p => if c == x then some p else behind? c p

section Recurrence

variable {c x y : Char} {n : Nat} {p q r t u v : List Char}

theorem exists_of_behind? (h : behind? c p = some r) : ∃ u, p = u ++ c :: r := by
  induction p with
  | nil => cases h
  | cons x p ih =>
    rw [behind?] at h
    split at h
    · next hc =>
      cases h
      exact ⟨[], by rw [beq_iff_eq.1 hc, List.nil_append]⟩
    · obtain ⟨u, rfl⟩ := ih h
      exact ⟨x :: u, rfl⟩

/-- The first `c` does not lie behind another one. -/
theorem behind?_append (c : Char) (u r : List Char) :
    ∃ s, behind? c (u ++ c :: r) = some (s ++ r) ∧ s.length ≤ u.length := by
  induction u with
  | nil =>
    refine ⟨[], ?_, Nat.le_refl 0⟩
    rw [List.nil_append, behind?, if_pos (beq_self_eq_true c), List.nil_append]
  | cons x u ih =>
    rw [List.cons_append, behind?]
    split
    · refine ⟨u ++ [c], ?_, ?_⟩
      · rw [List.append_assoc, List.singleton_append]
      · rw [List.length_append]
        exact Nat.le_refl _
    · obtain ⟨s, hs, hlength⟩ := ih
      exact ⟨s, hs, Nat.le_succ_of_le hlength⟩

/-- The number of edits by way of a swap of `x` and `y` with the closest places of the other one. -/
noncomputable def swapEdits (x y : Char) (p q : List Char) : Option Nat :=
  match behind? y p, behind? x q with
  | some r, some t =>
    some (leastEdits r t + (p.length - r.length - 1) + 1 + (q.length - t.length - 1))
  | _, _ => none

theorem aligned_of_swapEdits (h : swapEdits x y p q = some n) :
    Aligned n (x :: p) (y :: q) := by
  rw [swapEdits] at h
  split at h
  · next r t hr ht =>
    obtain ⟨u, rfl⟩ := exists_of_behind? hr
    obtain ⟨v, rfl⟩ := exists_of_behind? ht
    have hswap := (aligned_leastEdits r t).swap x y u v
    cases h
    apply hswap.mono
    rw [List.length_append, List.length_append, List.length_cons, List.length_cons]
    omega
  · cases h

theorem swapEdits_le (h : Aligned n r t) (u v : List Char) :
    ∃ m ≤ n + u.length + v.length + 1, swapEdits x y (u ++ y :: r) (v ++ x :: t) = some m := by
  obtain ⟨s, hs, hu⟩ := behind?_append y u r
  obtain ⟨s', hs', hv⟩ := behind?_append x v t
  have hrest : leastEdits (s ++ r) (s' ++ t) ≤ n + s.length + s'.length := by
    rw [leastEdits_le_iff]
    exact (h.removes s).inserts s'
  rw [swapEdits, hs, hs']
  refine ⟨_, ?_, rfl⟩
  rw [List.length_append, List.length_append, List.length_append, List.length_append,
    List.length_cons, List.length_cons]
  omega

theorem aligned_cons_cons_iff : Aligned n (x :: p) (y :: q) ↔
    leastEdits p (y :: q) + 1 ≤ n ∨ leastEdits (x :: p) q + 1 ≤ n ∨
      leastEdits p q + (if x == y then 0 else 1) ≤ n ∨ ∃ m ≤ n, swapEdits x y p q = some m := by
  constructor
  · intro h
    cases h with
    | remove _ h => exact .inl (Nat.succ_le_succ (leastEdits_le_iff.2 h))
    | insert _ h => exact .inr (.inl (Nat.succ_le_succ (leastEdits_le_iff.2 h)))
    | keep _ h =>
      rw [beq_self_eq_true, if_pos rfl]
      exact .inr (.inr (.inl (leastEdits_le_iff.2 h)))
    | replace _ _ h =>
      refine .inr (.inr (.inl ?_))
      have hle := leastEdits_le_iff.2 h
      split <;> omega
    | swap _ _ u v h => exact .inr (.inr (.inr (swapEdits_le h u v)))
  · rintro (h | h | h | ⟨m, hm, h⟩)
    · exact ((aligned_leastEdits p (y :: q)).remove x).mono h
    · exact ((aligned_leastEdits (x :: p) q).insert y).mono h
    · by_cases hxy : x = y
      · subst hxy
        rw [beq_self_eq_true, if_pos rfl] at h
        exact ((aligned_leastEdits p q).keep x).mono h
      · rw [if_neg (by simpa using hxy)] at h
        exact ((aligned_leastEdits p q).replace x y).mono h
    · exact (aligned_of_swapEdits h).mono hm

/-- **One cell of the table**, from its neighbours and the closest swap. -/
theorem leastEdits_cons_cons (x y : Char) (p q : List Char) :
    leastEdits (x :: p) (y :: q) =
      let direct := min (min (leastEdits p (y :: q) + 1) (leastEdits (x :: p) q + 1))
        (leastEdits p q + if x == y then 0 else 1)
      match swapEdits x y p q with
      | some swapped => min direct swapped
      | none => direct := by
  apply eq_of_forall_ge_iff
  intro n
  rw [leastEdits_le_iff, aligned_cons_cons_iff]
  cases swapEdits x y p q with
  | none => simp [or_assoc]
  | some m => simp [or_assoc]

end Recurrence

/-! ### Rows -/

section Rows

variable {b p q ys : List Char} {x y : Char} {seen : List SeenAt}

/-- The cells of the row of `p` behind the one of `q`. -/
noncomputable def rowBehind (p q : List Char) : List Char → List Nat
  | [] => []
  | y :: ys => leastEdits p (y :: q) :: rowBehind p (y :: q) ys

/-- The distances from `p` to all beginnings of `b`. -/
noncomputable def row (b p : List Char) : List Nat := leastEdits p [] :: rowBehind p [] b

theorem getD_rowBehind (p q w ys : List Char) :
    (leastEdits p q :: rowBehind p q (w ++ ys)).getD w.length 0 =
      leastEdits p (w.reverse ++ q) := by
  induction w generalizing q with
  | nil => rfl
  | cons y w ih =>
    rw [List.cons_append, rowBehind, List.length_cons, List.getD_cons_succ, ih,
      List.reverse_cons, List.append_assoc, List.singleton_append]

theorem getD_row (p q ys : List Char) :
    (row (q.reverse ++ ys) p).getD q.length 0 = leastEdits p q := by
  have h := getD_rowBehind p [] q.reverse ys
  rwa [List.length_reverse, List.reverse_reverse, List.append_nil] at h

theorem getLastD_rowBehind (p q ys : List Char) (d : Nat) :
    (leastEdits p q :: rowBehind p q ys).getLastD d = leastEdits p (ys.reverse ++ q) := by
  induction ys generalizing q d with
  | nil => rfl
  | cons y ys ih =>
    rw [List.getLastD_cons, rowBehind, ih, List.reverse_cons, List.append_assoc,
      List.singleton_append]

theorem rowBehind_nil (q ys : List Char) :
    rowBehind [] q ys = List.range' (q.length + 1) ys.length := by
  induction ys generalizing q with
  | nil => rfl
  | cons y ys ih =>
    rw [rowBehind, leastEdits_nil_left, ih, List.length_cons, List.length_cons, List.range'_succ]

theorem row_nil (b : List Char) : row b [] = List.range (b.length + 1) := by
  rw [row, rowBehind_nil, leastEdits_nil_left, List.range_eq_range', List.range'_succ,
    List.length_nil]

/-- For every character the row in front of its last place is at hand. -/
def Kept (b p : List Char) (seen : List SeenAt) : Prop :=
  ∀ c, seen.find? (fun s => s.char == c) =
    (behind? c p).map fun r => ⟨c, r.length + 1, row b r⟩

theorem Kept.nil (b : List Char) : Kept b [] [] := fun _ => rfl

theorem Kept.cons (h : Kept b p seen) (x : Char) :
    Kept b (x :: p) (⟨x, p.length + 1, row b p⟩ :: seen.filter fun s => s.char != x) := by
  intro c
  rw [List.find?_cons, behind?]
  by_cases hc : c = x
  · subst hc
    simp
  · have hxc : (x == c) = false := beq_false_of_ne (Ne.symm hc)
    have hcx : (c == x) = false := beq_false_of_ne hc
    rw [hxc, hcx, if_neg Bool.false_ne_true, ← h c, List.find?_filter]
    refine congrArg (fun f => seen.find? f) (funext fun s => ?_)
    by_cases hs : s.char = c
    · simp [hs, hc]
    · simp [hs]

theorem swapCost_eq (h : Kept b p seen) (hb : b = q.reverse ++ ys) (x y : Char) :
    swapCost seen (p.length + 1) (q.length + 1) y ((behind? x q).map fun t => t.length + 1) =
      swapEdits x y p q := by
  rw [swapCost.eq_def, h y, swapEdits]
  cases behind? y p with
  | none => rfl
  | some r =>
    cases ht : behind? x q with
    | none => rfl
    | some t =>
      obtain ⟨v, rfl⟩ := exists_of_behind? ht
      have hsplit : b = t.reverse ++ (x :: (v.reverse ++ ys)) := by
        rw [hb, List.reverse_append, List.reverse_cons, List.append_assoc, List.append_assoc,
          List.singleton_append]
      have hcell : (row b r).getD t.length 0 = leastEdits r t := by
        rw [hsplit, getD_row]
      simp only [Option.map_some, Nat.add_sub_cancel, Nat.add_sub_add_right, hcell]

theorem fillRow_eq (h : Kept b p seen) (hb : b = q.reverse ++ ys) (x : Char) :
    fillRow seen (p.length + 1) x (q.length + 1) ((behind? x q).map fun t => t.length + 1)
      (leastEdits (x :: p) q) (leastEdits p q) ys (rowBehind p q ys) = rowBehind (x :: p) q ys := by
  induction ys generalizing q with
  | nil => rfl
  | cons y ys ih =>
    have hmatched : (if x == y then some (q.length + 1)
        else (behind? x q).map fun t => t.length + 1) =
          (behind? x (y :: q)).map fun t => t.length + 1 := by
      rw [behind?]
      split <;> rfl
    have hb' : b = (y :: q).reverse ++ ys := by
      rw [hb, List.reverse_cons, List.append_assoc, List.singleton_append]
    have hrest := ih hb'
    rw [leastEdits_cons_cons, List.length_cons] at hrest
    rw [rowBehind, rowBehind, leastEdits_cons_cons, fillRow, swapCost_eq h hb, hmatched]
    exact congrArg (List.cons _) hrest

theorem row_cons (h : Kept b p seen) (x : Char) :
    row b (x :: p) = (p.length + 1) :: fillRow seen (p.length + 1) x 1 none (p.length + 1)
      (leastEdits p []) b (rowBehind p [] b) := by
  have hfill := fillRow_eq (q := []) h rfl x
  rw [leastEdits_nil_right] at hfill
  rw [row, leastEdits_nil_right, ← hfill]
  rfl

theorem lastRow_eq (h : Kept b p seen) (xs : List Char) :
    lastRow b (p.length + 1) seen (row b p) xs = row b (xs.reverse ++ p) := by
  induction xs generalizing p seen with
  | nil => rfl
  | cons x xs ih =>
    have hrest := ih (h.cons x)
    rw [row_cons h x] at hrest
    rw [List.reverse_cons, List.append_assoc, List.singleton_append, ← hrest]
    rfl

end Rows

/-- **The computed distance is the least number of edits.** -/
theorem editDistance_eq (a b : List Char) : editDistance a b = leastEdits a b := by
  have hlast := lastRow_eq (Kept.nil b) a
  rw [row_nil, List.append_nil, List.length_nil, Nat.zero_add] at hlast
  rw [editDistance, hlast, row, getLastD_rowBehind, List.append_nil, leastEdits_reverse]

end Stencil.Text
