import Stencil.Proofs.Lookup
import Stencil.Proofs.Numerals
import Stencil.Proofs.Trimming
import Stencil.Proofs.Window

/-!
# Integers between two bounds

The bounds of a random integer are texts that nobody has checked. A bound counts if it is an integer
of the type in decimal, blanks around it aside; otherwise its default does (`Call.Gives`). In
whatever order the two bounds come, the range between them has an integer in it, so drawing from it
cannot break off, and the texts that can come out are the integers from the one bound to the other,
both included, as they are printed.

This holds of every way to draw that gives the integers of a range and breaks off on an empty one
(`DrawsRanges`), and the random words are one of them.
-/

namespace Stencil

open Text

/-! ### Drawing from a range -/

/-- What is assumed of a way to draw from ranges with both ends: it breaks off on an empty range and
    on no other one, and what it can give is the range, as long as there are no more integers in it
    than words. -/
structure DrawsRanges {Source : Type} (draw : Source → Int → Int → Option (Int × Source)) :
    Prop where
  breaks_iff : ∀ source low high, draw source low high = none ↔ high < low
  range_iff : ∀ low high, (high - low + 1).toNat ≤ Words.span →
    ∀ i, (∃ source source', draw source low high = some (i, source')) ↔ low ≤ i ∧ i ≤ high

/-- An integer from a range with both ends, unless the range is empty. -/
def Words.within? (words : Words) (low high : Int) : Option (Int × Words) :=
  if low ≤ high then some (words.within low high) else none

theorem Words.within?_of_le {low high : Int} (h : low ≤ high) (words : Words) :
    words.within? low high = some (words.within low high) := if_pos h

theorem Words.drawsRanges_within? : DrawsRanges within? where
  breaks_iff words low high := by
    rw [within?]
    split
    · next h => simp [h]
    · next h => simp [Int.not_le.1 h]
  range_iff low high hlength i := by
    constructor
    · rintro ⟨words, words', h⟩
      rw [within?] at h
      split at h
      · next hle =>
        obtain rfl := congrArg Prod.fst (Option.some.inj h)
        exact words.within_mem hle hlength
      · cases h
    · rintro ⟨hlow, hhigh⟩
      obtain ⟨words, rfl⟩ := exists_within hlow hhigh hlength
      exact ⟨words, _, within?_of_le (Int.le_trans hlow hhigh) words⟩

/-! ### The texts of integers -/

/-- The texts that an expression can give as the answer to a call. -/
def Expression.texts (x : Expression) (world : World) (call : Call) : Set String :=
  {text | ∃ words, (x.generate world call words).value = text}

namespace Bounds

/-- An integer of a type in decimal. -/
def Spells (least most : Int) (s : List Char) (i : Int) : Prop :=
  Number.WritesInteger s i ∧ least ≤ i ∧ i ≤ most

/-- The printed integers from one bound to the other. -/
def printed (a b : Int) : Set String := {text | ∃ i, min a b ≤ i ∧ i ≤ max a b ∧ toString i = text}

/-- The expressions that draw integers, with the least and the greatest integer of their types. -/
def integers : List (Expression × Int × Int) :=
  [(integer32, -2147483648, 2147483647),
    (integer64, -9223372036854775808, 9223372036854775807)]

/-- The text of an integer that is drawn in any way between the bounds of a call. -/
def integerBy {Source : Type} (draw : Source → Int → Int → Option (Int × Source)) (least most : Int)
    (call : Call) (source : Source) : Option (String × Source) :=
  let a := call.read (Number.integer? 10 least most) "min" 0 0 "0"
  let b := call.read (Number.integer? 10 least most) "max" 1 most (toString most)
  (draw source (min a.value b.value) (max a.value b.value)).map fun (i, source) =>
    (toString i, source)

/-- The texts of all the integers that can be drawn. -/
def textsBy {Source : Type} (draw : Source → Int → Int → Option (Int × Source)) (least most : Int)
    (call : Call) : Set String :=
  {text | ∃ source source', integerBy draw least most call source = some (text, source')}

variable {x : Expression} {least most a b : Int} {call : Call}

theorem printed_comm (a b : Int) : printed a b = printed b a := by
  rw [printed, printed, min_comm, max_comm]

theorem printed_self (a : Int) : printed a a = {toString a} := by
  ext text
  rw [Set.mem_singleton_iff]
  constructor
  · rintro ⟨i, hlow, hhigh, rfl⟩
    rw [min_self] at hlow
    rw [max_self] at hhigh
    rw [Int.le_antisymm hhigh hlow]
  · rintro rfl
    exact ⟨a, by rw [min_self], by rw [max_self], rfl⟩

/-- Nothing is trimmed from a printed integer. -/
theorem spells_toString (ha : least ≤ a ∧ a ≤ most) :
    Spells least most (trim (toString a).toList) a := by
  have hwrites := Number.writesInteger_toString a
  have hblank : ∀ c ∈ (toString a).toList, isBlank c = false := by
    intro c hc
    rcases hwrites.isDigit_or_sign c hc with hdigit | rfl | rfl
    · exact not_isBlank_of_isNameChar (by simp [isNameChar, Char.isAlphanum, hdigit])
    · rfl
    · rfl
  have htrim : trim ([] ++ (toString a).toList ++ []) = (toString a).toList := by
    apply Trimmed.trim _ .nil .nil
    exact ⟨fun c hc => hblank c (List.mem_of_mem_head? hc),
      fun c hc => hblank c (List.mem_of_mem_getLast? hc)⟩
  rw [List.nil_append, List.append_nil] at htrim
  rw [htrim]
  exact ⟨hwrites, ha⟩

/-! ### The range between the bounds -/

/-- A type holds the least of the defaults, and no more integers than there are words. -/
structure IsType (least most : Int) : Prop where
  least_nonpos : least ≤ 0
  most_nonneg : 0 ≤ most
  length_le : (most - least + 1).toNat ≤ Words.span

theorem gives_bound_iff (least most : Int) (call : Call) (name : String) (index : Nat)
    (fallback : Int) (shown : String) (v : Int) :
    Call.Gives (Spells least most) fallback (call.lookup? name index) v ↔
      v = (call.read (Number.integer? 10 least most) name index fallback shown).value :=
  Call.gives_iff (fun _ _ => Number.integer?_eq_some_iff) call name index fallback shown v

/-- What stands for a bound belongs to the type. -/
theorem mem_type_of_gives {fallback v : Int} {argument : Option String}
    (hfallback : least ≤ fallback ∧ fallback ≤ most)
    (h : Call.Gives (Spells least most) fallback argument v) : least ≤ v ∧ v ≤ most := by
  cases h with
  | spelled h => exact h.2
  | unreadable h => exact hfallback
  | missing => exact hfallback

/-- **Drawing between the bounds never breaks off**, and it gives the same texts in whatever way it
    is done. -/
theorem textsBy_of_gives {Source : Type} {draw : Source → Int → Int → Option (Int × Source)}
    (htype : IsType least most) (hdraw : DrawsRanges draw)
    (ha : Call.Gives (Spells least most) 0 (call.lookup? "min" 0) a)
    (hb : Call.Gives (Spells least most) most (call.lookup? "max" 1) b) :
    (∀ source, integerBy draw least most call source ≠ none) ∧
      textsBy draw least most call = printed a b := by
  have hzero := htype.least_nonpos
  have hmost := htype.most_nonneg
  obtain ⟨hlowest, hhighest⟩ : least ≤ min a b ∧ max a b ≤ most := by
    have hamem := mem_type_of_gives ⟨hzero, hmost⟩ ha
    have hbmem := mem_type_of_gives ⟨Int.le_trans hzero hmost, Int.le_refl most⟩ hb
    omega
  have hlength : (max a b - min a b + 1).toNat ≤ Words.span := by
    apply Nat.le_trans _ htype.length_le
    omega
  have heq : ∀ source, integerBy draw least most call source =
      (draw source (min a b) (max a b)).map fun (i, source) => (toString i, source) := by
    intro source
    rw [integerBy, ← (gives_bound_iff least most call _ _ _ "0" a).1 ha,
      ← (gives_bound_iff least most call _ _ _ (toString most) b).1 hb]
  constructor
  · intro source h
    rw [heq, Option.map_eq_none_iff, hdraw.breaks_iff] at h
    omega
  · ext text
    constructor
    · rintro ⟨source, source', h⟩
      rw [heq, Option.map_eq_some_iff] at h
      obtain ⟨⟨i, rest⟩, hi, htext⟩ := h
      obtain ⟨hlow, hhigh⟩ := (hdraw.range_iff _ _ hlength i).1 ⟨source, rest, hi⟩
      exact ⟨i, hlow, hhigh, congrArg Prod.fst htext⟩
    · rintro ⟨i, hlow, hhigh, rfl⟩
      obtain ⟨source, rest, hi⟩ := (hdraw.range_iff _ _ hlength i).2 ⟨hlow, hhigh⟩
      refine ⟨source, rest, ?_⟩
      rw [heq, hi]
      rfl

/-! ### The expressions -/

/-- The generator draws from a range with the random words, and the range is not empty. -/
theorem integerBy_within? (bits : Nat) (least most : Int) (world : World) (call : Call)
    (words : Words) :
    integerBy Words.within? least most call words =
      some ((integer bits least most world call words).value,
        (integer bits least most world call words).words) := by
  rw [integerBy, Words.within?_of_le (by omega)]
  rfl

theorem texts_eq {bits : Nat} (hx : x.generate = integer bits least most) (world : World)
    (call : Call) :
    x.texts world call = textsBy Words.within? least most call := by
  ext text
  constructor
  · rintro ⟨words, rfl⟩
    rw [hx]
    exact ⟨words, _, integerBy_within? bits least most world call words⟩
  · rintro ⟨words, words', h⟩
    rw [integerBy_within? bits least most world] at h
    refine ⟨words, ?_⟩
    rw [hx]
    exact congrArg Prod.fst (Option.some.inj h)

theorem generate_of_mem_integers (h : (x, least, most) ∈ integers) :
    (∃ bits, x.generate = integer bits least most) ∧ IsType least most := by
  simp only [integers, List.mem_cons, Prod.mk.injEq, List.not_mem_nil, or_false] at h
  rcases h with ⟨rfl, rfl, rfl⟩ | ⟨rfl, rfl, rfl⟩
  · exact ⟨⟨32, rfl⟩, by decide, by decide, by decide⟩
  · exact ⟨⟨64, rfl⟩, by decide, by decide, by decide⟩

/-- **Integers lie between their bounds, in whatever order these come.** For every call there is one
    integer of the type that stands for either bound: the one that the argument spells, or else the
    default. The range between the two is never empty, so that drawing from it does not break off,
    and the texts that can come out are the integers of the range as they are printed. That does not
    depend on the way to draw. Bounds that are printed integers of the type can trade places, and
    two equal ones leave one text. -/
theorem integers_between_bounds (hx : (x, least, most) ∈ integers) (world : World) :
    (∀ call, ∃ a b,
      (∀ v, Call.Gives (Spells least most) 0 (call.lookup? "min" 0) v ↔ v = a) ∧
      (∀ v, Call.Gives (Spells least most) most (call.lookup? "max" 1) v ↔ v = b) ∧
      (∀ words, integerBy Words.within? least most call words =
        some ((x.generate world call words).value, (x.generate world call words).words)) ∧
      x.texts world call = printed a b ∧
      ∀ (Source : Type) (draw : Source → Int → Int → Option (Int × Source)), DrawsRanges draw →
        (∀ source, integerBy draw least most call source ≠ none) ∧
          textsBy draw least most call = printed a b) ∧
    ∀ a b, least ≤ a ∧ a ≤ most → least ≤ b ∧ b ≤ most → ∀ call call' : Call,
      call.lookup? "min" 0 = some (toString a) → call.lookup? "max" 1 = some (toString b) →
      call'.lookup? "min" 0 = some (toString b) → call'.lookup? "max" 1 = some (toString a) →
      x.texts world call = printed a b ∧ x.texts world call' = x.texts world call ∧
        (a = b → x.texts world call = {toString a}) := by
  obtain ⟨⟨bits, hgenerate⟩, htype⟩ := generate_of_mem_integers hx
  have htexts : ∀ call a b, Call.Gives (Spells least most) 0 (call.lookup? "min" 0) a →
      Call.Gives (Spells least most) most (call.lookup? "max" 1) b →
      x.texts world call = printed a b := by
    intro call a b ha hb
    rw [texts_eq hgenerate]
    exact (textsBy_of_gives htype Words.drawsRanges_within? ha hb).2
  constructor
  · intro call
    have hmin := gives_bound_iff least most call "min" 0 0 "0"
    have hmax := gives_bound_iff least most call "max" 1 most (toString most)
    refine ⟨_, _, hmin, hmax, ?_, htexts call _ _ ((hmin _).2 rfl) ((hmax _).2 rfl), ?_⟩
    · intro words
      rw [hgenerate]
      exact integerBy_within? bits least most world call words
    · intro Source draw hdraw
      exact textsBy_of_gives htype hdraw ((hmin _).2 rfl) ((hmax _).2 rfl)
  · intro a b ha hb call call' hmin hmax hmin' hmax'
    have hforth := htexts call a b (hmin ▸ .spelled (spells_toString ha))
      (hmax ▸ .spelled (spells_toString hb))
    have hback := htexts call' b a (hmin' ▸ .spelled (spells_toString hb))
      (hmax' ▸ .spelled (spells_toString ha))
    refine ⟨hforth, ?_, ?_⟩
    · rw [hforth, hback, printed_comm]
    · rintro rfl
      rw [hforth, printed_self]

/-- The ends of the greater type, the last one first, and one of them with a blank in front. -/
def endToEnd : Call :=
  ⟨"RANDOM_LONG", [.positional "+9223372036854775807", .named "MAX" " -9223372036854775808"]⟩

/-- A die that is thrown in either order, and one that always gives three. -/
theorem integers_between_bounds_ends :
    (integer64, -9223372036854775808, 9223372036854775807) ∈ integers ∧
      (∀ world, integer64.texts world endToEnd =
        printed 9223372036854775807 (-9223372036854775808)) ∧
      (∀ world, integer64.texts world ⟨"D", [.positional "1", .positional "6"]⟩ = printed 1 6 ∧
        integer64.texts world ⟨"D", [.named "max" "1", .positional "6"]⟩ = printed 1 6) ∧
      ∀ world, integer64.texts world ⟨"D", [.positional "3", .positional "3"]⟩ = {"3"} := by
  have hmem : (integer64, -9223372036854775808, 9223372036854775807) ∈ integers := by
    simp [integers]
  refine ⟨hmem, ?_, ?_, ?_⟩
  · intro world
    obtain ⟨hall, -⟩ := integers_between_bounds hmem world
    obtain ⟨a, b, ha, hb, -, htexts, -⟩ := hall endToEnd
    have hplus := (gives_bound_iff (-9223372036854775808) 9223372036854775807 endToEnd "min" 0 0 "0"
      9223372036854775807).2 (by decide)
    have hminus := (gives_bound_iff (-9223372036854775808) 9223372036854775807 endToEnd "max" 1
      9223372036854775807 "9223372036854775807" (-9223372036854775808)).2 (by decide)
    rw [htexts, ← (ha _).1 hplus, ← (hb _).1 hminus]
  · intro world
    obtain ⟨-, hpairs⟩ := integers_between_bounds hmem world
    obtain ⟨hforth, hback, -⟩ := hpairs 1 6 (by decide) (by decide)
      ⟨"D", [.positional "1", .positional "6"]⟩ ⟨"D", [.named "max" "1", .positional "6"]⟩
      rfl rfl rfl rfl
    exact ⟨hforth, hback.trans hforth⟩
  · intro world
    obtain ⟨-, hpairs⟩ := integers_between_bounds hmem world
    obtain ⟨-, -, hsame⟩ := hpairs 3 3 (by decide) (by decide)
      ⟨"D", [.positional "3", .positional "3"]⟩ ⟨"D", [.positional "3", .positional "3"]⟩
      rfl rfl rfl rfl
    exact hsame rfl

end Bounds

end Stencil
