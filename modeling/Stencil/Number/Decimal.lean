import Stencil.Number.Reading
import Stencil.Number.Binary64

/-!
# Decimal notation

Reading a number of double precision from decimal digits, a point and an exponent, exactly
rounded, and writing one: with a fixed number of digits behind the point, or with as few digits
as read back as the same number.
-/

namespace Stencil.Number

/-! ### Reading -/

/-- The number `digits * 10^exponent`. A number past the ends of the range needs no arithmetic:
    `places` is the number of digits of `digits`. -/
def scaled (negative : Bool) (digits places : Nat) (exponent : Int) : Double :=
  if digits == 0 then .finite ⟨negative, 0⟩
  else if 400 < places + exponent then .infinite negative
  else if places + exponent < -400 then .finite ⟨negative, 0⟩
  else
    let num := digits * Binary64.one * tenTo exponent.toNat
    let den := tenTo (-exponent).toNat
    .rounded negative num den

/-- The exponent behind a mantissa: nothing, or `e` with an optional sign and digits. -/
def exponent? : List Char → Option Int
  | [] => some 0
  | e :: rest =>
    if e == 'e' || e == 'E' then
      match rest with
      | '-' :: digits => (digits? 10 digits).map fun n => -(n : Int)
      | '+' :: digits => (digits? 10 digits).map Int.ofNat
      | digits => (digits? 10 digits).map Int.ofNat
    else none

/-- An unsigned number: digits around an optional point, at least one of them, and an optional
    exponent. -/
def unsigned? (negative : Bool) (s : List Char) : Option Double :=
  let whole := s.takeWhile Char.isDigit
  let rest := s.dropWhile Char.isDigit
  let (fraction, rest) := match rest with
    | '.' :: r => (r.takeWhile Char.isDigit, r.dropWhile Char.isDigit)
    | r => ([], r)
  if whole.isEmpty && fraction.isEmpty then none
  else
    let digits := (whole ++ fraction).dropWhile (· == '0')
    (exponent? rest).bind fun e =>
      (digitsFrom? 10 0 digits).map fun n =>
        scaled negative n digits.length (e - fraction.length)

/-- A number, or one of the words for what is no finite number, in any case. -/
def magnitude? (negative : Bool) (s : List Char) : Option Double :=
  let word := s.map Char.toLower
  if word == "inf".toList || word == "infinity".toList then some (.infinite negative)
  else if word == "nan".toList then some .nan
  else unsigned? negative s

/-- Reads decimal notation with an optional sign. -/
def Double.read? : List Char → Option Double
  | '-' :: rest => magnitude? true rest
  | '+' :: rest => magnitude? false rest
  | rest => magnitude? false rest

/-! ### Writing with fixed places -/

/-- A number of `10^-places` as digits with a point; without places there is no point. -/
def placed (places n : Nat) : List Char :=
  let digits := Nat.toDigits 10 n
  if places == 0 then digits
  else
    let padded := List.replicate (places + 1 - digits.length) '0' ++ digits
    let cut := padded.length - places
    padded.take cut ++ '.' :: padded.drop cut

/-- A number with `places` digits behind the point, a tie to the even digit. The sign of a
    negative number stays when all its digits are zero. -/
def Binary64.toFixed (places : Nat) (x : Binary64) : String :=
  let digits := placed places (roundDiv (x.units * tenTo places) Binary64.one)
  String.ofList (if x.negative then '-' :: digits else digits)

/-- A number in the notation that is given for finite ones; the others have words. -/
def Double.shown (finite : Binary64 → String) : Double → String
  | .finite x => finite x
  | .infinite negative => if negative then "-inf" else "inf"
  | .nan => "NaN"

def Double.toFixed (places : Nat) : Double → String := shown (Binary64.toFixed places)

/-! ### Writing with the fewest digits -/

/-- Whether `digits * 10^exponent` is read back as the positive number of `units` steps. -/
def readsBack (units digits : Nat) (exponent : Int) : Bool :=
  let num := digits * Binary64.one * tenTo exponent.toNat
  Binary64.roundUnits num (tenTo (-exponent).toNat) == units

/-- The digits of a number on a grid of powers of ten, rounded down. -/
def gridFloor (units : Nat) (exponent : Int) : Nat :=
  units * tenTo (-exponent).toNat / (Binary64.one * tenTo exponent.toNat)

/-- The point of the grid that reads back as the number, the nearer one if both neighbours do,
    the even one of two equally near. -/
def gridPoint? (units : Nat) (exponent : Int) : Option Nat :=
  let low := gridFloor units exponent
  match readsBack units low exponent, readsBack units (low + 1) exponent with
  | true, true =>
    some (roundDiv (units * tenTo (-exponent).toNat) (Binary64.one * tenTo exponent.toNat))
  | true, false => some low
  | false, true => some (low + 1)
  | false, false => none

/-- The first grid, from coarse to fine, that has a point which reads back. -/
def shortestFrom (units : Nat) (exponent : Int) : Nat → Nat × Int
  | 0 => (gridFloor units exponent, exponent)
  | n + 1 =>
    match gridPoint? units exponent with
    | some digits => (digits, exponent)
    | none => shortestFrom units (exponent - 1) n

/-- An exponent `e` with the number below `10^(e+1)`. -/
def leadingExponent (units : Nat) : Int :=
  let estimate : Int := (Binary64.bitSize units - 1074 : Int) * 30103 / 100000 + 1
  if gridFloor units estimate == 0 then estimate - 1 else estimate

/-- The fewest digits of a positive number, without zeros at the end, and their exponent. -/
def shortest (units : Nat) : List Char × Int :=
  let (digits, exponent) := shortestFrom units (leadingExponent units + 1) 20
  let text := Nat.toDigits 10 digits
  let kept := (text.reverse.dropWhile (· == '0')).reverse
  (kept, exponent + (text.length - kept.length : Nat))

/-- The fewest digits in positional notation: zeros fill the places up to the point. -/
def positional (digits : List Char) (exponent : Int) : List Char :=
  if 0 ≤ exponent then digits ++ List.replicate exponent.toNat '0'
  else
    let places := (-exponent).toNat
    let padded := List.replicate (places + 1 - digits.length) '0' ++ digits
    let cut := padded.length - places
    padded.take cut ++ '.' :: padded.drop cut

/-- The fewest digits with a power of ten: one digit before the point. -/
def scientific (digits : List Char) (exponent : Int) : List Char :=
  let power := exponent + (digits.length - 1 : Nat)
  let mantissa := match digits with
    | d :: e :: rest => d :: '.' :: e :: rest
    | short => short
  mantissa ++ 'e' :: (toString power).toList

/-- Digits that hold a point. -/
def withPoint (digits : List Char) : List Char :=
  if digits.contains '.' then digits else digits ++ ['.', '0']

/-- A finite number in positional notation with a point. -/
def Binary64.toPositional (x : Binary64) : String :=
  let digits := if x.units == 0 then ['0'] else
    let (d, e) := shortest x.units
    positional d e
  String.ofList ((if x.negative then ['-'] else []) ++ withPoint digits)

/-- A finite number as in a log line: with a power of ten below `10^-4` and from `10^16` on. -/
def Binary64.toLog (x : Binary64) : String :=
  if x.units == 0 then x.toPositional
  else
    let (d, e) := shortest x.units
    let power := e + (d.length : Nat)
    if power ≤ -4 || 16 < power then
      String.ofList ((if x.negative then ['-'] else []) ++ scientific d e)
    else x.toPositional

def Double.toPositional : Double → String := shown Binary64.toPositional

end Stencil.Number
