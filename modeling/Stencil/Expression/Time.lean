import Stencil.Dice
import Stencil.Expression.Basic
import Stencil.Expression.Calendar

/-!
# Random times

A random time lies within a window around the current one, which reaches equally far into the
past and the future, about 31.7 years. Three expressions show it as a date, as a date with the
time of day, and as a number of milliseconds.
-/

namespace Stencil

namespace Time

/-- How far the window reaches into the past and the future, in milliseconds. -/
def reach : Int := 1000000000000

variable [Dice]

/-- A time from the window around `now`. It is `now` itself where the calendar ends. -/
def draw (now : Int) (words : Words) : Int × Words :=
  let (offset, words) := Dice.integer words 64 (-reach) reach
  (if Calendar.covers (now + offset) then now + offset else now, words)

def shown (text : Int → String) (world : World) (_ : Call) (words : Words) : Generated :=
  let (time, words) := draw world.now words
  Expression.fixed (text time) words

def date : Expression :=
  .plain "RANDOM_DATE" "Random calendar date (yyyy-MM-dd) within ~31 years of today"
    (shown Calendar.dateText)

def dateTime : Expression :=
  .plain "RANDOM_DATE_TIME" "Random UTC date and time (yyyy-MM-ddTHH:mm:ss)"
    (shown Calendar.dateTimeText)

def timestamp : Expression :=
  .plain "RANDOM_TIMESTAMP" "Random Unix timestamp in milliseconds" (shown toString)

end Time

end Stencil
