/-!
# Reading whole numbers

A whole number is written with the digits of a base, one or more of them, in front of which a
sign may stand. Readers take a bound: a number outside it is not read.
-/

namespace Stencil.Number

/-- The value of a digit of base `base`; letters count from ten, in either case. -/
def digit? (base : Nat) (c : Char) : Option Nat :=
  let value :=
    if c.isDigit then some (c.toNat - '0'.toNat)
    else if 'a' ≤ c && c ≤ 'z' then some (c.toNat - 'a'.toNat + 10)
    else if 'A' ≤ c && c ≤ 'Z' then some (c.toNat - 'A'.toNat + 10)
    else none
  value.filter (· < base)

/-- The number written by digits behind those of `acc`. -/
def digitsFrom? (base acc : Nat) : List Char → Option Nat
  | [] => some acc
  | c :: rest => (digit? base c).bind fun d => digitsFrom? base (base * acc + d) rest

/-- The number written by one or more digits. -/
def digits? (base : Nat) (s : List Char) : Option Nat :=
  if s.isEmpty then none else digitsFrom? base 0 s

/-- A natural number up to `most`; a plus may stand in front. -/
def natural? (base most : Nat) (s : List Char) : Option Nat :=
  let digits := match s with
    | '+' :: rest => rest
    | rest => rest
  (digits? base digits).filter (· ≤ most)

/-- An integer between `least` and `most`; a sign may stand in front. -/
def integer? (base : Nat) (least most : Int) (s : List Char) : Option Int :=
  let value := match s with
    | '-' :: rest => (digits? base rest).map fun n => -(n : Int)
    | '+' :: rest => (digits? base rest).map Int.ofNat
    | rest => (digits? base rest).map Int.ofNat
  value.filter fun n => least ≤ n && n ≤ most

def maxWord : Nat := 18446744073709551615

/-- A natural number of 64 bits in decimal. -/
def size? (s : List Char) : Option Nat := natural? 10 maxWord s

def tenTo (n : Nat) : Nat := Nat.pow 10 n

end Stencil.Number
