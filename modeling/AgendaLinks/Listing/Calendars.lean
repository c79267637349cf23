import AgendaLinks.Calendar
import AgendaLinks.Listing.Section
import AgendaLinks.Log

/-!
Reading the listing of calendars. Each section is a calendar; of several lines with its kind or its
identifier the last one counts.
-/

namespace AgendaLinks.Listing

/-- A calendar with the property that a line tells, if it tells one that calendars have. -/
def withProperty (c : Calendar) (line : Text) : Calendar :=
  match property? 2 line with
  | none => c
  | some (name, value) =>
    let name := Text.lower name
    if name = "type".toList then { c with kind := some (Text.trim value) }
    else if name = "uid".toList then { c with uid := some (Text.trim value) }
    else c

/-- The calendar that a section describes. -/
def Section.calendar (s : Section) : Calendar :=
  s.body.foldl withProperty { title := Text.trim s.heading }

/-- The calendars of a listing. -/
def calendars (lines : List Text) : List Calendar := (sections lines).map Section.calendar

/-- The calendars of a listing, with a message about their number. -/
def readCalendars (lines : List Text) : Logged (List Calendar) := do
  let found := calendars lines
  Logged.write .info .listing s!"Parsed {found.length} calendars"
  return found

end AgendaLinks.Listing
