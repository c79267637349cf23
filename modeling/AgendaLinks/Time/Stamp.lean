import AgendaLinks.Time.Date

/-!
Points in time: a date, a time of day and the distance of the local time from universal time. Two
of them are compared by the instant they name.
-/

namespace AgendaLinks

/-- A time of day in microseconds. -/
structure Clock where
  hour : Nat
  minute : Nat
  second : Nat
  micro : Nat
  hour_lt : hour < 24 := by decide
  minute_lt : minute < 60 := by decide
  second_lt : second < 60 := by decide
  micro_lt : micro < 1000000 := by decide
  deriving DecidableEq, Repr

/-- Why numbers name no time of day. -/
inductive ClockFault where
  | hour
  | minute
  | second
  deriving DecidableEq, Repr

namespace ClockFault

/-- The message about a fault. -/
def message : ClockFault → String
  | hour => "hour must be in 0..23"
  | minute => "minute must be in 0..59"
  | second => "second must be in 0..59"

end ClockFault

namespace Clock

def midnight : Clock := { hour := 0, minute := 0, second := 0, micro := 0 }

/-- The time of day of four numbers, or the first that is out of range; the microseconds are cut to
six digits. -/
def ofParts (hour minute second micro : Nat) : Except ClockFault Clock :=
  if hh : hour < 24 then
    if hm : minute < 60 then
      if hs : second < 60 then
        .ok ⟨hour, minute, second, micro % 1000000, hh, hm, hs, Nat.mod_lt _ (by decide)⟩
      else .error .second
    else .error .minute
  else .error .hour

/-- The time of day of four numbers, if there is one. -/
def ofParts? (hour minute second micro : Nat) : Option Clock :=
  (ofParts hour minute second micro).toOption

/-- The microseconds since midnight. -/
def micros (c : Clock) : Nat := ((c.hour * 60 + c.minute) * 60 + c.second) * 1000000 + c.micro

/-- The text `HH:MM:SS`. -/
def text (c : Clock) : Text :=
  Text.padded 2 c.hour ++ ':' :: Text.padded 2 c.minute ++ ':' :: Text.padded 2 c.second

/-- The text `HH:MM:SS`, with six more digits when the microseconds are not zero. -/
def isoText (c : Clock) : Text :=
  c.text ++ if c.micro = 0 then [] else '.' :: Text.padded 6 c.micro

end Clock

/-- The microseconds of a day. -/
def dayMicros : Nat := 86400000000

/-- How far a local time is ahead of universal time, in microseconds; less than a day. -/
structure UtcOffset where
  micros : Int
  lt_day : micros.natAbs < dayMicros := by decide
  deriving DecidableEq, Repr

namespace UtcOffset

def zero : UtcOffset := ⟨0, by decide⟩

/-- The offset of so many microseconds, if it is less than a day. -/
def ofMicros? (micros : Int) : Option UtcOffset :=
  if h : micros.natAbs < dayMicros then some ⟨micros, h⟩ else none

/-- The text `+HHMM`, followed by seconds and microseconds when they are not zero; the separator
stands between hours, minutes and seconds. -/
def textWith (separator : Text) (o : UtcOffset) : Text :=
  let size := o.micros.natAbs
  let micro := size % 1000000
  let seconds := size / 1000000
  (if o.micros < 0 then '-' else '+') :: Text.padded 2 (seconds / 3600) ++ separator ++
    Text.padded 2 (seconds / 60 % 60) ++
    (if seconds % 60 = 0 ∧ micro = 0 then [] else separator ++ Text.padded 2 (seconds % 60)) ++
    (if micro = 0 then [] else '.' :: Text.padded 6 micro)

end UtcOffset

/-- A local time with its distance from universal time. -/
structure Stamp where
  date : Date
  clock : Clock
  offset : UtcOffset
  deriving DecidableEq, Repr

namespace Stamp

/-- The microseconds of universal time since the day before the first one began. -/
def instant (s : Stamp) : Int := s.date.number * dayMicros + s.clock.micros - s.offset.micros

/-- The stamp of universal time at an instant. -/
def ofInstant? (micros : Nat) : Option Stamp := do
  let date ← Date.ofNumber? (micros / dayMicros)
  let rest := micros % dayMicros
  let clock ← Clock.ofParts? (rest / 3600000000) (rest / 60000000 % 60) (rest / 1000000 % 60)
    (rest % 1000000)
  return ⟨date, clock, .zero⟩

/-- The start of a day at an offset. -/
def startOf (date : Date) (offset : UtcOffset) : Stamp := ⟨date, .midnight, offset⟩

/-- The text `Y-MM-DDTHH:MM:SS+HHMM`. -/
def text (s : Stamp) : Text := s.date.text ++ 'T' :: s.clock.text ++ s.offset.textWith []

/-- The text `YYYY-MM-DDTHH:MM:SS+HH:MM`. -/
def isoText (s : Stamp) : Text := s.date.isoText ++ 'T' :: s.clock.isoText ++ s.offset.textWith [':']

/-- The text `Y-MM-DD HH:MM:SS +HHMM`. -/
def spacedText (s : Stamp) : Text :=
  s.date.text ++ ' ' :: s.clock.text ++ ' ' :: s.offset.textWith []

end Stamp

end AgendaLinks
