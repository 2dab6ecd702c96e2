/-!
# Searching a text

The leftmost occurrence of one text in another, as the pair of what lies before and behind it,
and the length of a text in bytes of UTF-8.
-/

namespace Stencil.Text

/-- The search for `needle`, with the characters already passed in reverse. -/
def splitFrom (needle : List Char) (passed : List Char) : List Char → Option (List Char × List Char)
  | [] => if needle.isEmpty then some (passed.reverse, []) else none
  | c :: rest =>
    if needle.isPrefixOf (c :: rest) then
      some (passed.reverse, (c :: rest).drop needle.length)
    else splitFrom needle (c :: passed) rest

/-- What lies before and behind the leftmost occurrence of `needle`. -/
def splitFirst (needle s : List Char) : Option (List Char × List Char) := splitFrom needle [] s

def occurs (needle s : List Char) : Bool := (splitFirst needle s).isSome

def byteLength (s : List Char) : Nat := s.foldl (fun n c => n + c.utf8Size) 0

/-! ### The pieces put together again -/

theorem splitFrom_append {needle passed s before after : List Char}
    (h : splitFrom needle passed s = some (before, after)) :
    passed.reverse ++ s = before ++ needle ++ after := by
  induction s generalizing passed with
  | nil =>
    simp only [splitFrom] at h
    split at h
    · next he =>
      simp only [Option.some.injEq, Prod.mk.injEq] at h
      simp [List.isEmpty_iff.1 he, ← h.1, ← h.2]
    · exact absurd h (by simp)
  | cons c rest ih =>
    simp only [splitFrom] at h
    split at h
    · next hprefix =>
      simp only [Option.some.injEq, Prod.mk.injEq] at h
      have hall := List.prefix_iff_eq_append.1 (List.isPrefixOf_iff_prefix.1 hprefix)
      rw [← h.1, ← h.2, List.append_assoc, hall]
    · have := ih h
      simpa using this

/-- Nothing is lost: the pieces and the needle between them are the text. -/
theorem splitFirst_append {needle s before after : List Char}
    (h : splitFirst needle s = some (before, after)) : s = before ++ needle ++ after := by
  have := splitFrom_append h
  simpa using this

/-! ### Lengths in bytes -/

theorem foldl_utf8Size (s : List Char) (n : Nat) :
    s.foldl (fun n c => n + c.utf8Size) n = n + byteLength s := by
  induction s generalizing n with
  | nil => rfl
  | cons c s ih =>
    rw [byteLength, List.foldl_cons, List.foldl_cons, ih, ih, Nat.zero_add, Nat.add_assoc]

theorem byteLength_append (s t : List Char) :
    byteLength (s ++ t) = byteLength s + byteLength t := by
  rw [byteLength, List.foldl_append, foldl_utf8Size, ← byteLength]

end Stencil.Text
