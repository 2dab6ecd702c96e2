/-!
# Edit distance

The number of single edits that lead from one text to another, where an edit inserts, removes
or replaces a character, or swaps two neighbours; between the two swapped characters others may
be inserted or removed. The distances between the beginnings of two texts are computed row by
row. For a swap a row needs the row above the last one that ended in the same character, so
that row is kept for every character seen.
-/

namespace Stencil.Text

/-- The last place of a character in the first text, from one, and the row above it. -/
structure SeenAt where
  char : Char
  place : Nat
  above : List Nat

/-- The distance by way of a swap: the characters at `place` and `column` of the two texts
    meet the ones at the places seen last. -/
def swapCost (seen : List SeenAt) (place column : Nat) (c : Char) (matched : Option Nat) :
    Option Nat :=
  match seen.find? (fun s => s.char == c), matched with
  | some s, some m => some (s.above.getD (m - 1) 0 + (place - s.place - 1) + 1 + (column - m - 1))
  | _, _ => none

/-- The rest of a row: `left` and `corner` are the neighbours of its first cell, `matched` the
    last column so far whose character is `x`. -/
def fillRow (seen : List SeenAt) (place : Nat) (x : Char) :
    Nat → Option Nat → Nat → Nat → List Char → List Nat → List Nat
  | column, matched, left, corner, y :: ys, up :: ups =>
    let direct := min (min (up + 1) (left + 1)) (corner + if x == y then 0 else 1)
    let cell := match swapCost seen place column y matched with
      | some swapped => min direct swapped
      | none => direct
    cell :: fillRow seen place x (column + 1) (if x == y then some column else matched) cell up
      ys ups
  | _, _, _, _, _, _ => []

/-- The row of the whole first text, from the row above and the rows that were kept. -/
def lastRow (b : List Char) : Nat → List SeenAt → List Nat → List Char → List Nat
  | _, _, row, [] => row
  | place, seen, row, x :: xs =>
    let below := match row with
      | corner :: ups => place :: fillRow seen place x 1 none place corner b ups
      | [] => []
    let kept := ⟨x, place, row⟩ :: seen.filter fun s => s.char != x
    lastRow b (place + 1) kept below xs

/-- The number of edits from one text to another. -/
def editDistance (a b : List Char) : Nat :=
  (lastRow b 1 [] (List.range (b.length + 1)) a).getLastD 0

end Stencil.Text
