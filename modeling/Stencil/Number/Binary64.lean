/-!
# Numbers of double precision

A finite number of double precision is a whole multiple of its smallest positive step,
`2^-1074`. `Binary64` keeps the sign and the multiple, so that comparing, adding and rounding
are arithmetic of whole numbers. `ofRatio?` rounds a quotient of whole numbers to the nearest
such number, a tie to the one with an even last bit; it has no answer where the nearest number
would be infinite. `Double` has the infinities besides, and a value that is no number.
-/

namespace Stencil.Number

/-- A finite number of double precision: `units` steps of `2^-1074`. Zero has two signs. -/
structure Binary64 where
  negative : Bool
  units : Nat
deriving DecidableEq, Repr

/-- A quotient rounded to the nearest whole number, a tie to the even one. -/
def roundDiv (num den : Nat) : Nat :=
  let q := num / den
  let r := num % den
  if den < 2 * r || (2 * r == den && q % 2 == 1) then q + 1 else q

namespace Binary64

/-- The number of steps in one. -/
def one : Nat := Nat.pow 2 1074

/-- The first multiple that is out of range. -/
def bound : Nat := Nat.pow 2 2098

/-- The place of the highest bit plus one; zero has none. -/
def bitSize (n : Nat) : Nat := if n == 0 then 0 else n.log2 + 1

/-- The nearest multiple of at most 53 bits to the quotient. -/
def roundUnits (num den : Nat) : Nat :=
  let unit := Nat.pow 2 (bitSize (num / den) - 53)
  roundDiv num (den * unit) * unit

/-- The number nearest to a quotient of steps, if it is finite. -/
def ofRatio? (negative : Bool) (num den : Nat) : Option Binary64 :=
  let units := roundUnits num den
  if units < bound then some ⟨negative, units⟩ else none

/-- The multiple with its sign. -/
def signed (x : Binary64) : Int := if x.negative then -(x.units : Int) else x.units

/-- Order by value; the two zeros are equal. -/
def le (x y : Binary64) : Bool := x.signed ≤ y.signed

def zero : Binary64 := ⟨false, 0⟩

def unit : Binary64 := ⟨false, one⟩

end Binary64

/-- A number of double precision, be it finite or not. -/
inductive Double where
  | finite (x : Binary64)
  | infinite (negative : Bool)
  | nan
deriving DecidableEq, Repr

/-- The number nearest to a quotient of steps. -/
def Double.rounded (negative : Bool) (num den : Nat) : Double :=
  match Binary64.ofRatio? negative num den with
  | some x => .finite x
  | none => .infinite negative

end Stencil.Number
