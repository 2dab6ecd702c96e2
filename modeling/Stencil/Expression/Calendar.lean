/-!
# Calendar

Times are milliseconds since the beginning of 1970 in universal time. The calendar repeats
after 400 years of 146097 days. Inside such a cycle years are counted from March on, so that a
leap day is the last day of its year.
-/

namespace Stencil.Calendar

structure Date where
  year : Int
  month : Nat
  day : Nat
deriving DecidableEq, Repr

def dayMillis : Int := 86400000

def cycleDays : Int := 146097

/-- Days from the first of March of the year zero to the beginning of 1970. -/
def epochDays : Int := 719468

/-- The year within a cycle, counted from March, of a day of the cycle: four years have 1461
    days but for the hundredth, and a hundred years 36524 but for the last of the cycle. -/
def yearOfCycle (day : Nat) : Nat := (day - day / 1460 + day / 36524 - day / 146096) / 365

def firstDay (year : Nat) : Nat := 365 * year + year / 4 - year / 100

/-- The month, from March, of a day of the year: five months have 153 days. -/
def monthOfYear (day : Nat) : Nat := (5 * day + 2) / 153

def firstOfMonth (month : Nat) : Nat := (153 * month + 2) / 5

/-- The date of a day counted from the beginning of 1970. -/
def Date.ofDays (days : Int) : Date :=
  let shifted := days + epochDays
  let cycle := shifted / cycleDays
  let day := (shifted % cycleDays).toNat
  let year := yearOfCycle day
  let inYear := day - firstDay year
  let month := monthOfYear inYear
  let late := 10 ≤ month
  { year := 400 * cycle + year + (if late then 1 else 0)
    month := if late then month - 9 else month + 3
    day := inYear - firstOfMonth month + 1 }

/-- A number with zeros in front of it up to a width. -/
def padded (width n : Nat) : String :=
  let digits := Nat.toDigits 10 n
  String.ofList (List.replicate (width - digits.length) '0' ++ digits)

/-- A year: four digits, and a sign if it is negative or has five. -/
def yearText (year : Int) : String :=
  if year < 0 then "-" ++ padded 4 year.natAbs
  else if 9999 < year then "+" ++ padded 4 year.natAbs
  else padded 4 year.natAbs

/-- A date: year, month and day with hyphens between them. -/
def Date.text (d : Date) : String :=
  yearText d.year ++ "-" ++ padded 2 d.month ++ "-" ++ padded 2 d.day

def dateText (millis : Int) : String := (Date.ofDays (millis / dayMillis)).text

/-- The hour, minute and second of a time with colons between them. -/
def clockText (millis : Int) : String :=
  let seconds := (millis % dayMillis).toNat / 1000
  padded 2 (seconds / 3600) ++ ":" ++ padded 2 (seconds / 60 % 60) ++ ":" ++
    padded 2 (seconds % 60)

/-- The date and the time of day of a time with a `T` between them. -/
def dateTimeText (millis : Int) : String := dateText millis ++ "T" ++ clockText millis

def earliest : Int := -8334601228800000

def latest : Int := 8210266876799999

def covers (millis : Int) : Bool := earliest ≤ millis && millis ≤ latest

end Stencil.Calendar
