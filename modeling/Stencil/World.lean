/-!
# The world around a template

What a generated value may depend on besides its arguments: the clock, the variables of the
environment, and a source of random words. All three are values here. The source is an endless
sequence of words of 64 bits with a place in it, and drawing gives back the source moved on.
-/

namespace Stencil

structure Environment where
  entries : List (String × ByteArray)

namespace Environment

def bytes? (e : Environment) (name : String) : Option ByteArray := e.entries.lookup name

/-- The value of a variable as text, if it is text. -/
def text? (e : Environment) (name : String) : Option String :=
  (e.bytes? name).bind String.fromUTF8?

end Environment

structure World where
  /-- The current time in milliseconds since 1970. -/
  now : Int
  environment : Environment

/-- An endless sequence of random words, and how many of them have been used. -/
structure Words where
  word : Nat → UInt64
  used : Nat

namespace Words

def next (w : Words) : Nat × Words := ((w.word w.used).toNat, { w with used := w.used + 1 })

def span : Nat := Nat.pow 2 64

/-- A number below `n`, where `n` is at most the number of words: the high half of a word
    times `n`. Only where the low half is so large that a finer draw could still carry into
    the high half does the next word decide whether it does. -/
def below (w : Words) (n : Nat) : Nat × Words :=
  let (first, w) := w.next
  let high := first * n / span
  let low := first * n % span
  if span - n < low then
    let (second, w) := w.next
    let carry := if span ≤ low + second * n / span then 1 else 0
    (high + carry, w)
  else (high, w)

/-- An integer from `low` to `high`, ends included. -/
def within (w : Words) (low high : Int) : Int × Words :=
  let (k, w) := w.below (high - low + 1).toNat
  (low + k, w)

/-- Scrambles the bits of a word, so that words that follow each other look unrelated. -/
def scramble (z : UInt64) : UInt64 :=
  let z := (z ^^^ (z >>> 30)) * 0xbf58476d1ce4e5b9
  let z := (z ^^^ (z >>> 27)) * 0x94d049bb133111eb
  z ^^^ (z >>> 31)

/-- The distance between two words before they are scrambled. -/
def stride : UInt64 := 0x9e3779b97f4a7c15

def ofSeed (seed : UInt64) : Words := ⟨fun i => scramble (seed + (i.toUInt64 + 1) * stride), 0⟩

end Words

end Stencil
