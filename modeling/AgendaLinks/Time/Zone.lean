import AgendaLinks.Time.Stamp

/-!
Zones. The clocks of a zone are ahead of universal time by a number of seconds that may change from one
second to the next. Where they are set back, a time is shown twice and stands for the first of the two
seconds; where they are put forward, a time is skipped and stands for the later of the two seconds that
the clocks before and after the change would show it at.
-/

namespace AgendaLinks

/-- How many seconds the clocks of a zone are ahead of universal time, at each second since the day before
the first one began; less than a day. -/
structure Zone where
  ahead : Int → Int
  lt_day : ∀ second, (ahead second).natAbs < 86400

/-- Why a time without an offset is no point in time. -/
inductive ZoneFault where
  /-- To place it, the clocks are read at a second of a year that is none. -/
  | noYear (year : Nat)
  /-- By universal time it is before the first day or after the last one. -/
  | outOfRange
  deriving DecidableEq, Repr

namespace ZoneFault

def message : ZoneFault → String
  | noYear year => s!"year {year} is out of range"
  | outOfRange => "date value out of range"

end ZoneFault

namespace Zone

/-- The zone in which clocks show universal time. -/
def universal : Zone := ⟨fun _ => 0, fun _ => by decide⟩

/-- The offset of the clocks at a second. -/
def offset (z : Zone) (second : Int) : UtcOffset :=
  ⟨z.ahead second * 1000000, by
    have hsecond := z.lt_day second
    unfold dayMicros
    omega⟩

/-- The second that the clocks show at a second, if they show one of the years 1 to 9999. -/
def shown (z : Zone) (second : Int) : Except ZoneFault Int :=
  let reading := second + z.ahead second
  if reading < 86400 then .error (.noYear 0)
  else if 3652060 * 86400 ≤ reading then .error (.noYear 10000)
  else .ok reading

/-- The second at which the clocks show a time, or the one that a skipped time stands for. -/
def moment (z : Zone) (time : Int) : Except ZoneFault Int := do
  let offset := (← z.shown time) - time
  let second := time - offset
  let reading ← z.shown second
  if reading = time then
    -- with the offset of the day before, the same time may be shown at an earlier second
    let yesterday := second - 86400
    let before := (← z.shown yesterday) - yesterday
    if offset = before then return second
    let earlier := time - before
    return if (← z.shown earlier) = time then earlier else second
  else
    let other := time - (reading - second)
    return if (← z.shown other) = time then other else max second other

/-- What the clocks show at a second and some microseconds, if both the second and the time are of a day of
the calendar. -/
def stampAt? (z : Zone) (second : Int) (micro : Nat) : Option Stamp := do
  let _ ← Stamp.ofInstant? (second * 1000000).toNat
  let s ← Stamp.ofInstant? ((second + z.ahead second) * 1000000 + micro).toNat
  return { s with offset := z.offset second }

/-- The point in time for which a date and a time of day stand. A time that is skipped becomes the time
that the clocks show then. -/
def stamp (z : Zone) (date : Date) (clock : Clock) : Except ZoneFault Stamp := do
  let time : Int := date.number * 86400 + clock.micros / 1000000
  let second := time - z.ahead (← z.moment time)
  match z.stampAt? second clock.micro with
  | some s => return s
  | none => throw .outOfRange

end Zone

end AgendaLinks
