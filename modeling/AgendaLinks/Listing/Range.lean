import AgendaLinks.Listing.Line
import AgendaLinks.Log
import AgendaLinks.Time.Reader

/-!
Lines with the dates of an event: a start, and perhaps an end after a hyphen between spaces. An end
that is only a time lies on the day of the start, and an event without an end ends when it starts.
-/

namespace AgendaLinks.Listing

open Text

/-- A day, and the point in time on it for what does not take the whole day. -/
structure Boundary where
  at? : Option Stamp
  on : Date
  deriving DecidableEq, Repr

/-- The boundary that a text names. -/
def boundary? (t : Text) : Option Boundary :=
  match Time.readStamp? t with
  | some stamp => some ⟨some stamp, stamp.date⟩
  | none => (Time.readDate? t).map (⟨none, ·⟩)

/-- The texts of start and end in a line of dates. The word "at" between a date and a time is passed
over. -/
def rangeTexts? (t : Text) : Option (Text × Option Text) := do
  let t := replace " at ".toList [] t
  guard (startsWithDate t)
  let (date, rest) := (t.take 10, t.drop 10)
  let (time, rest) := match rest with
    | 'T' :: c :: _ => if isBlank c then ([], rest) else rest.span (!isBlank ·)
    | _ => ([], rest)
  let start := date ++ time
  if rest.isEmpty then return (start, none)
  let finish ← after? " - ".toList rest
  guard (finish ≠ [] ∧ finish.all (!isBlank ·))
  return (start, some (if finish.head? = some 'T' then date ++ finish else finish))

private def invalid (title t : Text) : Logged Unit :=
  Logged.write .warning .listing
    s!"Invalid date/time range for '{String.ofList title}': {String.ofList t}"

/-- The boundary that a text names, or a warning that names the event. -/
def readBoundary (title t : Text) : Logged (Option Boundary) := do
  match boundary? t with
  | some b => return some b
  | none =>
    invalid title t
    return none

/-- The start and the end that a line of dates sets. -/
def readRange (title t : Text) : Logged (Option Boundary × Option Boundary) := do
  match rangeTexts? t with
  | none =>
    invalid title t
    return (none, none)
  | some (start, finish) =>
    let first ← readBoundary title start
    match finish with
    | none => return (first, first)
    | some finish => return (first, ← readBoundary title finish)

end AgendaLinks.Listing
