import Stencil.Log.Record
import Stencil.Number.Reading
import Stencil.Text.Ascii

/-!
# Thresholds

What a part of the log lets through: everything from a level up, or nothing.
-/

namespace Stencil.Log

/-- What is let through: everything from a level up, or nothing. -/
inductive Threshold where
  | from (level : Level)
  | off
deriving DecidableEq, Repr

namespace Threshold

def allows : Threshold → Level → Bool
  | .from least, level => least.rank ≤ level.rank
  | .off, _ => false

def all : Threshold := .from .trace

/-- The thresholds by name, each in the place of its number. -/
def names : List (String × Threshold) :=
  [("off", .off), ("error", .from .error), ("warn", .from .warn), ("info", .from .info),
    ("debug", .from .debug), ("trace", .from .trace)]

/-- Reads a threshold: by name in any case, or by number from `0` (off) to `5` (trace). -/
def read? (s : List Char) : Option Threshold :=
  match Number.natural? 10 5 s with
  | some n => (names[n]?).map Prod.snd
  | none =>
    (names.find? fun entry => Text.sameName entry.1 (String.ofList s)).map Prod.snd

/-- Reads a threshold behind an equals sign, where nothing stands for everything. -/
def readBehindSign? (s : List Char) : Option Threshold :=
  if s.isEmpty then some all else read? s

end Threshold

end Stencil.Log
