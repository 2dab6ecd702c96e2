import Stencil.Dice
import Stencil.Expression.Basic
import Stencil.Number.Arithmetic
import Stencil.Number.Decimal
import Stencil.Number.Reading

/-!
# Random numbers between bounds

The bounds of a random number are its arguments `min` and `max`, or the first two positional
ones. Both ends belong to the range, and it does not matter which of them comes first. A bound
that is missing or cannot be read has a default.
-/

namespace Stencil.Bounds

open Number

/-- The records of what these expressions do besides reading arguments. -/
def origin : String := "mockexpr::expression::numeric"

/-! ### Whole numbers -/

variable [Dice]

/-- A random integer of a type with the given number of bits, least and greatest values. -/
def integer (bits : Nat) (least most : Int) (_ : World) (call : Call) (words : Words) :
    Generated :=
  let a := call.read (integer? 10 least most) "min" 0 0 "0"
  let b := call.read (integer? 10 least most) "max" 1 most (toString most)
  let (n, words) := Dice.integer words bits (min a.value b.value) (max a.value b.value)
  ⟨toString n, words, a.records ++ b.records⟩

def most32 : Int := 2147483647

def most64 : Int := 9223372036854775807

def integer32 : Expression :=
  .plain "RANDOM_INTEGER"
    "Random 32-bit integer; arguments: min (default 0), max (default 2147483647)"
    (integer 32 (-most32 - 1) most32)

def integer64 : Expression :=
  .plain "RANDOM_LONG"
    "Random 64-bit integer; arguments: min (default 0), max (default 9223372036854775807)"
    (integer 64 (-most64 - 1) most64)

/-! ### Decimal numbers -/

def finiteOr (fallback : Binary64) : Double → Binary64
  | .finite x => x
  | _ => fallback

/-- The greatest number of digits behind the point. -/
def mostPlaces : Nat := 10

/-- The record of bounds whose distance is too large for a number. -/
def overflowRecord (low high : Binary64) : Log.Record where
  level := .debug
  origin := origin
  message := "decimal span overflows, drawing in halves"
  details := [Log.plain "min" low.toLog, Log.plain "max" high.toLog]

/-- A number from `low` to `high` in two steps of the same random part of half the way. -/
def drawInHalves (low high : Binary64) (words : Words) : Double × Words :=
  let half := high.half.sub low.half
  let (unit, words) := Dice.fraction words
  let first := Double.mulAdd (.finite unit) half (.finite low)
  ((Double.mulAdd (.finite unit) half first).clamp low high, words)

/-- A random number from `low` to `high`, with what there is to say about it. A way of infinite
    length cannot be drawn from. -/
def drawBetween (low high : Binary64) (words : Words) : Double × Words × List Log.Record :=
  if high.le low then (.finite low, words, [])
  else
    match high.sub low with
    | .finite _ =>
      let (value, words) := Dice.between words low high
      (.finite value, words, [])
    | _ =>
      let (value, words) := drawInHalves low high words
      (value, words, [overflowRecord low high])

def decimal (_ : World) (call : Call) (words : Words) : Generated :=
  let a := call.read Double.read? "min" 0 (.finite .zero) "0.0"
  let b := call.read Double.read? "max" 1 (.finite .unit) "1.0"
  let places := call.read (natural? 10 255) "scale" 2 2 "2"
  let x := finiteOr .zero a.value
  let y := finiteOr .unit b.value
  let (low, high) := if x.le y then (x, y) else (y, x)
  let (value, words, records) := drawBetween low high words
  ⟨value.toFixed (min places.value mostPlaces), words,
    a.records ++ b.records ++ places.records ++ records⟩

def decimalNumber : Expression :=
  .plain "RANDOM_DECIMAL"
    "Random decimal; arguments: min (default 0), max (default 1), scale (default 2, max 10)"
    decimal

end Stencil.Bounds
