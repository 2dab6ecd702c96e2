import Stencil.Number.Binary64
import Stencil.World

/-!
# Draws

How random values come out of random words is a parameter (`Dice`): an expression says which
values it draws, in which order and from which ranges. `Words.dice` is the way in which the
program draws them.
-/

namespace Stencil

open Number

/-- A way to draw random values. Every draw gives back the words that it has left. -/
class Dice where
  /-- An index of a list of the given length. -/
  index : Words → Nat → Nat × Words
  /-- An integer of a type with the given number of bits in a range, ends included. -/
  integer : Words → Nat → Int → Int → Int × Words
  /-- A number in a range, ends included, whose length is finite. -/
  between : Words → Binary64 → Binary64 → Binary64 × Words
  /-- A number from zero up to one, but not one. -/
  fraction : Words → Binary64 × Words
  truth : Words → Bool × Words
  /-- A unique identifier of version 4 in lower case, with hyphens. -/
  uuid : Words → String × Words

namespace Words

/-- The number of steps into which ranges of numbers are divided. -/
def steps : Nat := Nat.pow 2 53

/-- The number on the way from `low` to `high` after `k` steps, rounded. -/
def onTheWay (low high : Binary64) (k : Nat) : Binary64 :=
  let exact := low.signed * steps + (high.signed - low.signed) * k
  (Binary64.ofRatio? (exact < 0) exact.natAbs steps).getD low

def between (w : Words) (low high : Binary64) : Binary64 × Words :=
  let (k, w) := w.below (steps + 1)
  (onTheWay low high k, w)

def fraction (w : Words) : Binary64 × Words :=
  let (k, w) := w.below steps
  (onTheWay .zero .unit k, w)

def truth (w : Words) : Bool × Words :=
  let (k, w) := w.below 2
  (k == 0, w)

def lastDigits (count n : Nat) : List Char :=
  (List.range count).reverse.map fun i => Nat.digitChar ((n >>> (4 * i)) % 16)

/-- Two words in hexadecimal digits. The version stands in front of the third group, and one of
    four digits in front of the fourth. -/
def uuid (w : Words) : String × Words :=
  let (a, w) := w.next
  let (b, w) := w.next
  let groups := lastDigits 8 (a >>> 32) ++ '-' :: lastDigits 4 (a >>> 16) ++
    '-' :: '4' :: lastDigits 3 a ++
    '-' :: Nat.digitChar (8 + (b >>> 62) % 4) :: lastDigits 3 (b >>> 48) ++
    '-' :: lastDigits 12 b
  (String.ofList groups, w)

instance dice : Dice where
  index := below
  integer w _ := w.within
  between := between
  fraction := fraction
  truth := truth
  uuid := uuid

end Words

end Stencil
