import Stencil.Number.Decimal
import Stencil.Text.Quoted
import Stencil.Yaml.Node

/-!
# What a scalar is

A plain scalar without a tag is a null, a truth value, a number, or else a text. Digits behind
a leading zero are a text. A tag can demand one of these; other tags are ignored, except that a
tag of the document's own leaves a plain scalar as it is, and any further tag makes it a text.
-/

namespace Stencil.Yaml

/-- What a scalar is. A whole number that needs more than 64 bits is told apart. -/
inductive Value where
  | null
  | bool (b : Bool)
  | integer (n : Int)
  | wide (n : Int)
  | float (x : Number.Double)
  | text (s : String)
deriving DecidableEq, Repr

def isNull (s : String) : Bool := ["null", "Null", "NULL", "~"].contains s

def truth? (s : String) : Option Bool :=
  if ["true", "True", "TRUE"].contains s then some true
  else if ["false", "False", "FALSE"].contains s then some false
  else none

/-- Whether a scalar is digits behind a leading zero, with an optional sign. -/
def isZeroLed (s : List Char) : Bool :=
  let digits := match s with
    | '-' :: r => r
    | '+' :: r => r
    | r => r
  match digits with
  | '0' :: c :: r => (c :: r).all Char.isDigit
  | _ => false

/-- The base that two characters in front of digits announce. -/
def base? : List Char → Option (Nat × List Char)
  | '0' :: 'x' :: r => some (16, r)
  | '0' :: 'o' :: r => some (8, r)
  | '0' :: 'b' :: r => some (2, r)
  | _ => none

/-- The natural number of some base that a scalar without a sign means. -/
def digits? (s : List Char) : Option Nat :=
  match base? s with
  | some (base, r) => Number.digits? base r
  | none => if isZeroLed s then none else Number.digits? 10 s

/-- The natural number up to `most` that a scalar means. -/
def natural? (most : Nat) (s : List Char) : Option Nat :=
  let digits := match s with
    | '+' :: r => r
    | r => r
  (digits? digits).filter (· ≤ most)

/-- The negative number from `-most` on that a scalar means. -/
def negative? (most : Nat) : List Char → Option Int
  | '-' :: r => ((digits? r).filter (· ≤ most)).map fun n => -(n : Int)
  | _ => none

def integer? (s : List Char) : Option Value :=
  match natural? (Nat.pow 2 64 - 1) s, negative? (Nat.pow 2 63) s with
  | some n, _ => some (.integer n)
  | none, some n => some (.integer n)
  | none, none =>
    match natural? (Nat.pow 2 128 - 1) s, negative? (Nat.pow 2 127) s with
    | some n, _ => some (.wide n)
    | none, some n => some (.wide n)
    | none, none => none

def decimal? (s : List Char) : Option Number.Double :=
  match Number.Double.read? s with
  | some (.finite x) => some (.finite x)
  | _ => none

/-- The number that a scalar means: decimal notation, or a word for what is no finite number. -/
def float? (s : String) : Option Number.Double :=
  if [".inf", ".Inf", ".INF", "+.inf", "+.Inf", "+.INF"].contains s then some (.infinite false)
  else if ["-.inf", "-.Inf", "-.INF"].contains s then some (.infinite true)
  else if [".nan", ".NaN", ".NAN"].contains s then some .nan
  else decimal? s.toList

def Value.ofPlain (s : String) : Value :=
  if s.isEmpty || isNull s then .null
  else
    match truth? s, integer? s.toList with
    | some b, _ => .bool b
    | none, some n => n
    | none, none =>
      match if isZeroLed s.toList then none else float? s with
      | some x => .float x
      | none => .text s

/-- The tag of one of the types that every document knows. -/
def coreTag (name : String) : List Char := "tag:yaml.org,2002:".toList ++ name.toList

/-- What a scalar is, or the name of the type that its tag demands in vain. -/
def Value.ofScalar (tag : Option (List Char)) (style : Style) (s : String) : Except String Value :=
  match tag with
  | none => .ok (if style == .plain then .ofPlain s else .text s)
  | some tag =>
    if tag == coreTag "bool" then
      match truth? s with
      | some b => .ok (.bool b)
      | none => .error "a boolean"
    else if tag == coreTag "int" then
      match integer? s.toList with
      | some n => .ok n
      | none => .error "an integer"
    else if tag == coreTag "float" then
      match float? s with
      | some x => .ok (.float x)
      | none => .error "a float"
    else if tag == coreTag "null" then
      if isNull s then .ok .null else .error "null"
    else if tag.head? == some '!' && style == .plain then .ok (.ofPlain s)
    else .ok (.text s)

def Value.describe : Value → String
  | .null => "unit value"
  | .bool b => "boolean `" ++ (if b then "true" else "false") ++ "`"
  | .integer n => "integer `" ++ toString n ++ "`"
  | .wide n => "integer `" ++ toString n ++ "` as " ++ (if n < 0 then "i128" else "u128")
  | .float x => "floating point `" ++ x.toPositional ++ "`"
  | .text s => "string " ++ Text.quote s

end Stencil.Yaml
