import Mathlib

/-!
# Edits and alignments

An edit inserts, removes or replaces a character, or swaps two neighbours. The distance of two texts
is the least number of edits that lead from one to the other, one after another (`leastEdits`). An
edit may undo or change what an earlier one has done, so this is no rule by which to compute it.

An alignment goes through the two texts once, from left to right, and says what becomes of each
character. The only part of it that is not about one place is a swap of two characters between which
others are removed or inserted. Editing the second text by one edit changes an alignment by at most
one (`Aligned.edit`), so that there is an alignment at the cost of every chain of edits, and the
least cost of an alignment is the distance (`leastEdits_le_iff`).
-/

namespace Stencil.Text

/-- One edit of a text. -/
inductive Edit : List Char → List Char → Prop
  | insert (x : Char) (a : List Char) : Edit a (x :: a)
  | remove (x : Char) (a : List Char) : Edit (x :: a) a
  | replace (x y : Char) (a : List Char) : Edit (x :: a) (y :: a)
  | swap (x y : Char) (a : List Char) : Edit (x :: y :: a) (y :: x :: a)
  | further (x : Char) {a b : List Char} (h : Edit a b) : Edit (x :: a) (x :: b)

/-- Edits one after another, and their number. -/
inductive Edits : Nat → List Char → List Char → Prop
  | none (a : List Char) : Edits 0 a a
  | more {n : Nat} {a b c : List Char} (h : Edits n a b) (he : Edit b c) : Edits (n + 1) a c

/-- The least number of edits from one text to another. -/
noncomputable def leastEdits (a b : List Char) : Nat := sInf {n | Edits n a b}

/-- The two texts can be aligned at a cost of at most `n`. -/
inductive Aligned : Nat → List Char → List Char → Prop
  | nil (n : Nat) : Aligned n [] []
  | remove {n : Nat} {a b : List Char} (x : Char) (h : Aligned n a b) : Aligned (n + 1) (x :: a) b
  | insert {n : Nat} {a b : List Char} (y : Char) (h : Aligned n a b) : Aligned (n + 1) a (y :: b)
  | keep {n : Nat} {a b : List Char} (x : Char) (h : Aligned n a b) : Aligned n (x :: a) (x :: b)
  | replace {n : Nat} {a b : List Char} (x y : Char) (h : Aligned n a b) :
      Aligned (n + 1) (x :: a) (y :: b)
  | swap {n : Nat} {a b : List Char} (x y : Char) (u v : List Char) (h : Aligned n a b) :
      Aligned (n + u.length + v.length + 1) (x :: (u ++ y :: a)) (y :: (v ++ x :: b))

/-! ### Chains of edits -/

namespace Edit

variable {a b : List Char}

theorem behind (u : List Char) (h : Edit a b) : Edit (u ++ a) (u ++ b) := by
  induction u with
  | nil => exact h
  | cons x u ih => exact ih.further x

theorem before (u : List Char) (h : Edit a b) : Edit (a ++ u) (b ++ u) := by
  induction h with
  | insert x a => exact .insert x (a ++ u)
  | remove x a => exact .remove x (a ++ u)
  | replace x y a => exact .replace x y (a ++ u)
  | swap x y a => exact .swap x y (a ++ u)
  | further x _ ih => exact ih.further x

theorem reverse (h : Edit a b) : Edit a.reverse b.reverse := by
  induction h with
  | insert x a => simpa using (insert x []).behind a.reverse
  | remove x a => simpa using (remove x []).behind a.reverse
  | replace x y a => simpa using (replace x y []).behind a.reverse
  | swap x y a => simpa using (swap y x []).behind a.reverse
  | further x _ ih => simpa using ih.before [x]

/-- An edit adds or takes away at most one character of a kind. -/
theorem countP_le (h : Edit a b) (p : Char → Bool) :
    a.countP p ≤ b.countP p + 1 ∧ b.countP p ≤ a.countP p + 1 := by
  induction h with
  | swap x y a =>
    simp only [List.countP_cons]
    omega
  | _ =>
    simp only [List.countP_cons]
    grind

end Edit

namespace Edits

variable {n m : Nat} {a b c : List Char}

theorem reverse (h : Edits n a b) : Edits n a.reverse b.reverse := by
  induction h with
  | none a => exact .none a.reverse
  | more _ he ih => exact .more ih he.reverse

theorem countP_le (h : Edits n a b) (p : Char → Bool) :
    a.countP p ≤ b.countP p + n ∧ b.countP p ≤ a.countP p + n := by
  induction h with
  | none a => exact ⟨Nat.le_refl _, Nat.le_refl _⟩
  | more _ he ih =>
    have hone := he.countP_le p
    omega

theorem trans (h : Edits n a b) (h' : Edits m b c) : Edits (n + m) a c := by
  induction h' with
  | none b => exact h
  | more _ he ih => exact .more (ih h) he

theorem behind (u : List Char) (h : Edits n a b) : Edits n (u ++ a) (u ++ b) := by
  induction h with
  | none a => exact .none (u ++ a)
  | more _ he ih => exact .more ih (he.behind u)

theorem further (x : Char) (h : Edits n a b) : Edits n (x :: a) (x :: b) := h.behind [x]

theorem of_edit (h : Edit a b) : Edits 1 a b := .more (.none a) h

theorem removes (u a : List Char) : Edits u.length (u ++ a) a := by
  induction u with
  | nil => exact .none a
  | cons x u ih =>
    have h := (of_edit (.remove x (u ++ a))).trans ih
    rwa [Nat.add_comm] at h

theorem inserts (v a : List Char) : Edits v.length a (v ++ a) := by
  induction v with
  | nil => exact .none a
  | cons y v ih => exact .more ih (.insert y (v ++ a))

end Edits

namespace Aligned

variable {n m : Nat} {a b c : List Char}

theorem mono (h : Aligned n a b) (hnm : n ≤ m) : Aligned m a b := by
  induction h generalizing m with
  | nil n => exact .nil m
  | remove x _ ih =>
    obtain ⟨m, rfl⟩ := Nat.exists_eq_add_of_le' (Nat.le_of_add_left_le hnm)
    exact .remove x (ih (by omega))
  | insert y _ ih =>
    obtain ⟨m, rfl⟩ := Nat.exists_eq_add_of_le' (Nat.le_of_add_left_le hnm)
    exact .insert y (ih (by omega))
  | keep x _ ih => exact .keep x (ih hnm)
  | replace x y _ ih =>
    obtain ⟨m, rfl⟩ := Nat.exists_eq_add_of_le' (Nat.le_of_add_left_le hnm)
    exact .replace x y (ih (by omega))
  | swap x y u v _ ih =>
    have h := swap x y u v (ih (m := m - u.length - v.length - 1) (by omega))
    exact (show m - u.length - v.length - 1 + u.length + v.length + 1 = m by omega) ▸ h

theorem removes (u : List Char) (h : Aligned n a b) : Aligned (n + u.length) (u ++ a) b := by
  induction u with
  | nil => exact h
  | cons x u ih => exact ih.remove x

theorem inserts (v : List Char) (h : Aligned n a b) : Aligned (n + v.length) a (v ++ b) := by
  induction v with
  | nil => exact h
  | cons y v ih => exact ih.insert y

theorem refl (a : List Char) : Aligned 0 a a := by
  induction a with
  | nil => exact .nil 0
  | cons x a ih => exact ih.keep x

theorem symm (h : Aligned n a b) : Aligned n b a := by
  induction h with
  | nil n => exact .nil n
  | remove x _ ih => exact ih.insert x
  | insert y _ ih => exact ih.remove y
  | keep x _ ih => exact ih.keep x
  | replace x y _ ih => exact ih.replace y x
  | swap x y u v _ ih => exact (ih.swap y x v u).mono (by omega)

/-- An alignment is a chain of edits. -/
theorem exists_edits (h : Aligned n a b) : ∃ m ≤ n, Edits m a b := by
  induction h with
  | nil n => exact ⟨0, Nat.zero_le n, .none []⟩
  | @remove n a b x _ ih =>
    obtain ⟨m, hm, h⟩ := ih
    refine ⟨1 + m, by omega, ?_⟩
    exact (Edits.of_edit (.remove x a)).trans h
  | @insert n a b y _ ih =>
    obtain ⟨m, hm, h⟩ := ih
    exact ⟨m + 1, by omega, .more h (.insert y b)⟩
  | keep x _ ih =>
    obtain ⟨m, hm, h⟩ := ih
    exact ⟨m, hm, h.further x⟩
  | @replace n a b x y _ ih =>
    obtain ⟨m, hm, h⟩ := ih
    exact ⟨m + 1, by omega, .more (h.further x) (.replace x y b)⟩
  | @swap n a b x y u v _ ih =>
    obtain ⟨m, hm, h⟩ := ih
    refine ⟨u.length + 1 + v.length + m, by omega, ?_⟩
    -- what lies between the two goes away, they are swapped, and the rest is put between them
    have hremove := (Edits.removes u (y :: a)).further x
    have hswap := Edits.of_edit (.swap x y a)
    have hinsert := (Edits.inserts v (x :: a)).further y
    have hrest := ((h.further x).behind v).further y
    exact ((hremove.trans hswap).trans hinsert).trans hrest

/-! ### An edit of the second text -/

/-- What becomes of the first character of the second text: it can be left out at no cost, or it is
    kept behind what has been removed. -/
theorem kept_or_free {y : Char} (h : Aligned n a (y :: b)) :
    Aligned n a b ∨ ∃ u a' m, a = u ++ y :: a' ∧ Aligned m a' b ∧ m + u.length ≤ n := by
  generalize hyb : y :: b = yb at h
  induction h with
  | nil n => cases hyb
  | @remove n a _ x _ ih =>
    rcases ih hyb with h | ⟨u, a', m, rfl, h, hm⟩
    · exact .inl (h.remove x)
    · refine .inr ⟨x :: u, a', m, rfl, h, ?_⟩
      rw [List.length_cons]
      omega
  | insert y h _ =>
    cases hyb
    exact .inl (h.mono (Nat.le_succ _))
  | @keep n a b x h _ =>
    cases hyb
    exact .inr ⟨[], a, n, rfl, h, Nat.le_refl n⟩
  | replace x y h _ =>
    cases hyb
    exact .inl (h.remove x)
  | @swap n a b x y u v h _ =>
    cases hyb
    refine .inl ?_
    have h := ((((h.remove y).removes u).keep x).inserts v)
    exact h.mono (by omega)

/-- A character that the second text does not have costs nothing to leave out. -/
theorem of_fresh {x : Char} (h : Aligned n (x :: a) b) (hx : x ∉ b) : Aligned n a b := by
  rcases h.symm.kept_or_free with h | ⟨u, b', m, rfl, -, -⟩
  · exact h.symm
  · exact absurd (List.mem_append_right u List.mem_cons_self) hx

theorem swap_behind_kept {x y : Char} (h : Aligned n a (y :: b)) :
    Aligned (n + 1) (x :: a) (y :: x :: b) := by
  rcases h.kept_or_free with h | ⟨u, a', m, rfl, h, hm⟩
  · exact (h.keep x).insert y
  · exact (h.swap x y u []).mono (by rw [List.length_nil]; omega)

theorem swap_behind_swap {x y z : Char} (u v : List Char) (h : Aligned n a (z :: b)) :
    Aligned (n + u.length + v.length + 1 + 1) (x :: (u ++ y :: a)) (y :: (v ++ z :: x :: b)) := by
  rcases h.kept_or_free with h | ⟨s, a', m, rfl, h, hm⟩
  · have hswap := h.swap x y u (v ++ [z])
    rw [List.append_assoc, List.singleton_append, List.length_append,
      List.length_singleton] at hswap
    exact hswap.mono (by omega)
  · have hkept := ((((((h.insert x).keep z).removes s).inserts v).keep y).removes u).remove x
    exact hkept.mono (by omega)

/-- Where an edit takes place, as seen from a character `x` between `v` and `b`. -/
inductive Beside (x : Char) : List Char → List Char → List Char → Prop
  | before {v b : List Char} (v' : List Char) (h : v'.length ≤ v.length + 1) :
      Beside x v b (v' ++ x :: b)
  | removed (v b : List Char) : Beside x v b (v ++ b)
  | replaced (v b : List Char) (z : Char) : Beside x v b (v ++ z :: b)
  | withNext (v b : List Char) (z : Char) : Beside x v (z :: b) (v ++ z :: x :: b)
  | withLast (v b : List Char) (z : Char) : Beside x (v ++ [z]) b (v ++ x :: z :: b)
  | behind (v : List Char) {b b' : List Char} (h : Edit b b') : Beside x v b (v ++ x :: b')

theorem Beside.further {x : Char} {v : List Char} (w : Char) (h : Beside x v b c) :
    Beside x (w :: v) b (w :: c) := by
  cases h with
  | before v' h => exact .before (w :: v') (by rw [List.length_cons, List.length_cons]; omega)
  | removed => exact .removed (w :: v) b
  | replaced _ _ z => exact .replaced (w :: v) b z
  | withNext _ b z => exact .withNext (w :: v) b z
  | withLast v _ z => exact .withLast (w :: v) b z
  | behind _ h => exact .behind (w :: v) h

theorem beside_of_edit {x : Char} {v : List Char} (h : Edit (v ++ x :: b) c) :
    Beside x v b c := by
  induction v generalizing c with
  | nil =>
    cases h with
    | insert z => exact .before [z] (Nat.le_refl 1)
    | remove => exact .removed [] b
    | replace _ z => exact .replaced [] b z
    | swap _ z b => exact .withNext [] b z
    | further _ h => exact .behind [] h
  | cons w v ih =>
    rw [List.cons_append] at h
    generalize hrest : v ++ x :: b = rest at h
    cases h with
    | insert z =>
      subst hrest
      exact .before (z :: w :: v) (Nat.le_refl _)
    | remove =>
      subst hrest
      exact .before v (Nat.le_add_right _ 2)
    | replace _ z =>
      subst hrest
      exact .before (z :: v) (Nat.le_succ _)
    | swap _ z a =>
      cases v with
      | nil =>
        cases hrest
        exact .withLast [] b w
      | cons z v =>
        cases hrest
        exact .before (z :: w :: v) (Nat.le_succ _)
    | further _ h => exact (ih (hrest ▸ h)).further w

/-- The case of a swap: `h` and `ih` are about what comes behind it. -/
theorem edit_swap {x y : Char} (u v : List Char) (h : Aligned n a b)
    (ih : ∀ c, Edit b c → Aligned (n + 1) a c) (he : Edit (y :: (v ++ x :: b)) c) :
    Aligned (n + u.length + v.length + 1 + 1) (x :: (u ++ y :: a)) c := by
  generalize hrest : v ++ x :: b = rest at he
  cases he with
  | insert z =>
    subst hrest
    exact (h.swap x y u v).insert z
  | remove =>
    subst hrest
    have hkept := (((h.remove y).removes u).keep x).inserts v
    exact hkept.mono (by omega)
  | replace _ z =>
    subst hrest
    have hkept := ((((h.remove y).removes u).keep x).inserts v).insert z
    exact hkept.mono (by omega)
  | swap _ z t =>
    cases v with
    | nil =>
      cases hrest
      have hkept := ((h.keep y).removes u).keep x
      exact hkept.mono (by omega)
    | cons z v =>
      cases hrest
      have hswap := (h.swap x y u v).insert z
      exact hswap.mono (by rw [List.length_cons]; omega)
  | further _ he =>
    subst hrest
    cases beside_of_edit he with
    | before v' hv => exact (h.swap x y u v').mono (by omega)
    | removed =>
      have hkept := (((h.inserts v).keep y).removes u).remove x
      exact hkept.mono (by omega)
    | replaced _ _ z =>
      have hkept := ((((h.insert z).inserts v).keep y).removes u).remove x
      exact hkept.mono (by omega)
    | withNext _ b z => exact h.swap_behind_swap u v
    | withLast v _ z =>
      have hswap := (h.insert z).swap x y u v
      exact hswap.mono (by rw [List.length_append]; omega)
    | behind _ hb => exact ((ih _ hb).swap x y u v).mono (by omega)

/-- **An edit of the second text changes the cost of an alignment by at most one.** -/
theorem edit (h : Aligned n a b) (he : Edit b c) : Aligned (n + 1) a c := by
  induction h generalizing c with
  | nil n =>
    cases he with
    | insert x => exact (nil n).insert x
  | remove x _ ih => exact (ih he).remove x
  | @insert n a b y h ih =>
    cases he with
    | insert z => exact (h.insert y).insert z
    | remove => exact h.mono (by omega)
    | replace _ z => exact (h.insert z).mono (by omega)
    | swap _ z b => exact (ih (.further z (.insert y b))).mono (Nat.le_succ _)
    | further _ he => exact (ih he).insert y
  | @keep n a b x h ih =>
    cases he with
    | insert z => exact (h.keep x).insert z
    | remove => exact h.remove x
    | replace _ z => exact h.replace x z
    | swap _ y b => exact h.swap_behind_kept
    | further _ he => exact (ih he).keep x
  | @replace n a b x y h ih =>
    cases he with
    | insert z => exact (h.replace x y).insert z
    | remove => exact (h.remove x).mono (by omega)
    | replace _ z => exact (h.replace x z).mono (by omega)
    | swap _ z b => exact (ih (.replace z y b)).replace x z
    | further _ he => exact (ih he).replace x y
  | swap x y u v h ih => exact edit_swap u v h (fun _ => ih) he

theorem of_edits (h : Edits n a b) : Aligned n a b := by
  induction h with
  | none a => exact refl a
  | more _ he ih => exact ih.edit he

end Aligned

/-! ### The distance -/

variable {n : Nat} {a b : List Char}

theorem exists_edits (a b : List Char) : ∃ n, Edits n a b := by
  have h := Aligned.removes a (Aligned.inserts b (.nil 0))
  rw [List.append_nil, List.append_nil] at h
  obtain ⟨n, -, hn⟩ := h.exists_edits
  exact ⟨n, hn⟩

theorem edits_leastEdits (a b : List Char) : Edits (leastEdits a b) a b :=
  Nat.sInf_mem (exists_edits a b)

/-- **The distance is the least cost of an alignment.** -/
theorem leastEdits_le_iff : leastEdits a b ≤ n ↔ Aligned n a b := by
  constructor
  · intro h
    exact (Aligned.of_edits (edits_leastEdits a b)).mono h
  · intro h
    obtain ⟨m, hm, hedits⟩ := h.exists_edits
    exact (Nat.sInf_le hedits).trans hm

theorem aligned_leastEdits (a b : List Char) : Aligned (leastEdits a b) a b :=
  leastEdits_le_iff.1 (Nat.le_refl _)

theorem leastEdits_reverse (a b : List Char) :
    leastEdits a.reverse b.reverse = leastEdits a b := by
  apply Nat.le_antisymm
  · exact Nat.sInf_le (edits_leastEdits a b).reverse
  · have h := (edits_leastEdits a.reverse b.reverse).reverse
    rw [List.reverse_reverse, List.reverse_reverse] at h
    exact Nat.sInf_le h

theorem eq_of_leastEdits_eq_zero (h : leastEdits a b = 0) : a = b := by
  have hnone := edits_leastEdits a b
  rw [h] at hnone
  cases hnone with
  | none => rfl

theorem countP_le_leastEdits (a b : List Char) (p : Char → Bool) :
    a.countP p ≤ b.countP p + leastEdits a b ∧ b.countP p ≤ a.countP p + leastEdits a b :=
  (edits_leastEdits a b).countP_le p

theorem leastEdits_nil_right (a : List Char) : leastEdits a [] = a.length := by
  apply Nat.le_antisymm
  · have h := Edits.removes a []
    rw [List.append_nil] at h
    exact Nat.sInf_le h
  · have h := (countP_le_leastEdits a [] fun _ => true).1
    rwa [List.countP_true, List.length_nil, Nat.zero_add] at h

theorem leastEdits_nil_left (b : List Char) : leastEdits [] b = b.length := by
  apply Nat.le_antisymm
  · have h := Edits.inserts b []
    rw [List.append_nil] at h
    exact Nat.sInf_le h
  · have h := (countP_le_leastEdits [] b fun _ => true).2
    rwa [List.countP_true, List.length_nil, Nat.zero_add] at h

end Stencil.Text
