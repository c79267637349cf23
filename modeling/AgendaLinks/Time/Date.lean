import AgendaLinks.Text.Basic

/-!
Days of the calendar with leap years by the rule of 1582, from 0001-01-01 to 9999-12-31. A date holds
the proof that it names such a day, so every date has a number among the days and can be compared by
it.
-/

namespace AgendaLinks

/-- Every fourth year is long, but of the full centuries only every fourth. -/
def isLeapYear (year : Nat) : Bool :=
  year % 4 == 0 && (year % 100 != 0 || year % 400 == 0)

/-- The number of days of a month. -/
def daysInMonth (year month : Nat) : Nat :=
  if month = 2 then if isLeapYear year then 29 else 28
  else if month = 4 ∨ month = 6 ∨ month = 9 ∨ month = 11 then 30 else 31

/-- A day of the calendar. -/
structure Date where
  year : Nat
  month : Nat
  day : Nat
  year_mem : 1 ≤ year ∧ year ≤ 9999 := by decide
  month_mem : 1 ≤ month ∧ month ≤ 12 := by decide
  day_mem : 1 ≤ day ∧ day ≤ daysInMonth year month := by decide
  deriving DecidableEq, Repr

/-- Why three numbers name no day. -/
inductive DateFault where
  | year (year : Nat)
  | month
  | day
  deriving DecidableEq, Repr

namespace DateFault

/-- The message about a fault. -/
def message : DateFault → String
  | year y => s!"year {y} is out of range"
  | month => "month must be in 1..12"
  | day => "day is out of range for month"

end DateFault

namespace Date

/-- The day of a year, month and day of the month, or the first of the three that is out of range. -/
def ofParts (year month day : Nat) : Except DateFault Date :=
  if hy : 1 ≤ year ∧ year ≤ 9999 then
    if hm : 1 ≤ month ∧ month ≤ 12 then
      if hd : 1 ≤ day ∧ day ≤ daysInMonth year month then .ok ⟨year, month, day, hy, hm, hd⟩
      else .error .day
    else .error .month
  else .error (.year year)

/-- The day of a year, month and day of the month, if there is such a day. -/
def ofParts? (year month day : Nat) : Option Date := (ofParts year month day).toOption

/-- The number of days before a year, counted from the year 1. -/
def daysBeforeYear (year : Nat) : Nat :=
  let past := year - 1
  past * 365 + past / 4 - past / 100 + past / 400

/-- The number of days of a year before a month. -/
def daysBeforeMonth (year month : Nat) : Nat :=
  (List.range (month - 1)).foldl (fun days m => days + daysInMonth year (m + 1)) 0

/-- The number of a day; the first of January of the year 1 has the number 1. -/
def number (d : Date) : Nat := daysBeforeYear d.year + daysBeforeMonth d.year d.month + d.day

/-- The day after, which the last day does not have. -/
def next? (d : Date) : Option Date :=
  (ofParts? d.year d.month (d.day + 1)).or
    ((ofParts? d.year (d.month + 1) 1).or (ofParts? (d.year + 1) 1 1))

/-- The day with a number within the months of a year that are left. -/
def inYear (year : Nat) : List Nat → Nat → Option Date
  | [], _ => none
  | month :: months, k =>
    let width := daysInMonth year month
    if k ≤ width then ofParts? year month k else inYear year months (k - width)

def yearLength (year : Nat) : Nat := if isLeapYear year then 366 else 365

/-- The day with a number within its year, which may lie up to one year before or after it. -/
def ofYearDay? (year : Nat) (k : Int) : Option Date :=
  let months := (List.range 12).map (· + 1)
  if k < 1 then inYear (year - 1) months (k + yearLength (year - 1)).toNat
  else if yearLength year < k then inYear (year + 1) months (k - yearLength year).toNat
  else inYear year months k.toNat

/-- The day with a number, if there is one. The year is at most one off when every year is taken to be as
long as the mean of four hundred. -/
def ofNumber? (number : Nat) : Option Date :=
  let year := (number - 1) * 400 / 146097 + 1
  ofYearDay? year (number - daysBeforeYear year)

/-- The day of the week of a day: Monday is 0. -/
def weekday (d : Date) : Nat := (d.number + 6) % 7

/-- The day of a week of a year. The first week is the one with the first Thursday, and a year has 53
weeks when it starts on a Thursday, or on a Wednesday and is long. -/
def ofWeek? (year week day : Nat) : Option Date := do
  let newYear ← ofParts? year 1 1
  let long := newYear.weekday == 3 || (newYear.weekday == 2 && isLeapYear year)
  guard (1 ≤ week ∧ week ≤ (if long then 53 else 52) ∧ 1 ≤ day ∧ day ≤ 7)
  let firstMonday : Int :=
    if newYear.weekday ≤ 3 then 1 - newYear.weekday else 8 - newYear.weekday
  ofYearDay? year (firstMonday + (week - 1) * 7 + day - 1)

/-- The text `YYYY-MM-DD`. -/
def isoText (d : Date) : Text :=
  Text.padded 4 d.year ++ '-' :: Text.padded 2 d.month ++ '-' :: Text.padded 2 d.day

/-- The text `Y-MM-DD`, with as many digits of the year as it needs. -/
def text (d : Date) : Text :=
  Text.ofNat d.year ++ '-' :: Text.padded 2 d.month ++ '-' :: Text.padded 2 d.day

end Date

end AgendaLinks
