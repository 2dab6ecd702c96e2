import Stencil.Number.Binary64

/-!
# Arithmetic of double precision

The result of an operation is the exact one, rounded once. Products are counted in steps of
steps, so that they are whole as well.
-/

namespace Stencil.Number

namespace Double

/-- An exact result of `num / den` steps, rounded. Zero has the sign that is given. -/
def ofExact (negative : Bool) (num : Int) (den : Nat) : Double :=
  if num == 0 then .finite ⟨negative, 0⟩ else .rounded (num < 0) num.natAbs den

def isZero : Double → Bool
  | .finite x => x.units == 0
  | _ => false

/-- The sign; what is no number has none. -/
def isNegative : Double → Bool
  | .finite x => x.negative
  | .infinite negative => negative
  | .nan => false

end Double

namespace Binary64

/-- The difference. It is minus zero only if plus zero is taken from minus zero. -/
def sub (x y : Binary64) : Double :=
  .ofExact (x.negative && !y.negative) (x.signed - y.signed) 1

def half (x : Binary64) : Binary64 := ⟨x.negative, roundUnits x.units 2⟩

/-- Order by value, without equality. -/
def lt (x y : Binary64) : Bool := x.signed < y.signed

end Binary64

namespace Double

/-- The product of two numbers and a third one on top, rounded only once. -/
def mulAdd (x y z : Double) : Double :=
  let negative := x.isNegative != y.isNegative
  match x, y, z with
  | .finite x, .finite y, .finite z =>
    .ofExact (negative && z.negative) (x.signed * y.signed + z.signed * Binary64.one) Binary64.one
  | .nan, _, _ => .nan
  | _, .nan, _ => .nan
  | _, _, .nan => .nan
  | .finite _, .finite _, z => z
  | x, y, z =>
    -- one of the factors is infinite
    if x.isZero || y.isZero || z == .infinite (!negative) then .nan else .infinite negative

/-- The number of a range that is nearest to a number. -/
def clamp (low high : Binary64) : Double → Double
  | .finite x => .finite (if x.lt low then low else if high.lt x then high else x)
  | .infinite negative => .finite (if negative then low else high)
  | .nan => .nan

end Double

end Stencil.Number
