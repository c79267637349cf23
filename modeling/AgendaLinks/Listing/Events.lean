import AgendaLinks.Calendar
import AgendaLinks.Event
import AgendaLinks.Listing.Range
import AgendaLinks.Listing.Section
import AgendaLinks.Text.Quoted

/-!
Reading the listing of events. A heading names the title of the event and, in parentheses at its end,
the calendar; without known calendars any calendar will do. The lines below it set properties, of
which location, notes, address and attendees may go on over several lines.
-/

namespace AgendaLinks.Listing

open Text

/-- Properties that the listing of events tells. -/
inductive Property where
  | location
  | notes
  | url
  | attendees
  deriving DecidableEq, Repr

namespace Property

def name : Property → Text
  | location => "location".toList
  | notes => "notes".toList
  | url => "url".toList
  | attendees => "attendees".toList

/-- The property with a name. -/
def named? (name : Text) : Option Property :=
  [location, notes, url, attendees].find? (·.name = name)

/-- Properties whose values keep blank lines. -/
def keepsBlankLines : Property → Bool
  | location | notes => true
  | url | attendees => false

end Property

/-- The names between commas, without the blanks around them. -/
def splitAttendees (value : Text) : List Text :=
  ((pieces ',' value).map trim).filter (· ≠ [])

/-- An event with the value of a property. -/
def setProperty (e : Event) (value : Text) : Property → Event
  | .location => { e with location := some value }
  | .notes => { e with notes := some value }
  | .url => { e with url := some value }
  | .attendees => { e with attendees := some (splitAttendees value) }

/-- A text with a further line. -/
def addLine (value : Text) : Option Text → Text
  | none => value
  | some before => before ++ '\n' :: value

/-- An event with a further line of a property. -/
def extendProperty (e : Event) (value : Text) : Property → Event
  | .location => { e with location := some (addLine value e.location) }
  | .notes => { e with notes := some (addLine value e.notes) }
  | .url => { e with url := some (addLine value e.url) }
  | .attendees => { e with attendees := some (e.attendees.getD [] ++ splitAttendees value) }

/-- Title and calendar in a heading: of all ways to split off a calendar in parentheses at the end,
the one with the longest title. The title goes over no line end. -/
def splitHeading (known : Text → Bool) : Text → Option (Text × Text)
  | [] => none
  | c :: cs =>
    let longer := if c = '\n' then none
      else (splitHeading known cs).map fun (title, calendar) => (c :: title, calendar)
    match longer with
    | some split => some split
    | none =>
      match after? " (".toList (c :: cs) with
      | some rest =>
        let calendar := rest.dropLast
        if rest.getLast? = some ')' && known calendar then some ([], calendar) else none
      | none => none

/-- Whether a text can be a calendar: one of the known titles, or when none is known any text of one
line that is not empty. -/
def isCalendar (titles : List Text) (t : Text) : Bool :=
  if titles.isEmpty then t ≠ [] && '\n' ∉ t else titles.contains t

/-- The event that a heading begins. -/
def startEvent (titles : List Text) (heading : Text) : Option Event :=
  (splitHeading (isCalendar titles) heading).map fun (title, calendar) => { title, calendar }

/-- An event of which the listing is being read. -/
structure Draft where
  event : Event
  /-- The property that further lines belong to. -/
  active : Option Property := none
  /-- Blank lines after the value of that property, kept only if more of it follows. -/
  pending : Nat := 0
  deriving DecidableEq, Repr

namespace Draft

/-- A blank line. -/
def skipBlank (d : Draft) : Draft :=
  if d.active.any Property.keepsBlankLines then { d with pending := d.pending + 1 } else d

/-- A further line of the active property, with the blank lines before it. -/
def extend (d : Draft) (p : Property) (line : Text) : Draft :=
  let width := propertyIndent + p.name.length + 2
  let spaced := Nat.repeat (fun e => extendProperty e [] p) d.pending d.event
  { d with event := extendProperty spaced (unindent width line) p, pending := 0 }

/-- Start and end set to what a line of dates tells; what it does not tell stays. -/
def setDates (d : Draft) (start finish : Option Boundary) : Draft :=
  let e := d.event
  let e := match start with
    | some b => { e with startAt := b.at?, startOn := some b.on }
    | none => e
  let e := match finish with
    | some b => { e with endAt := b.at?, endOn := some b.on }
    | none => e
  { event := e, active := none, pending := 0 }

/-- A line with a property; other properties than those of an event are passed over. -/
def setNamed (d : Draft) (name value : Text) : Logged Draft := do
  let name := lower name
  match Property.named? name with
  | some p => return { event := setProperty d.event value p, active := some p, pending := 0 }
  | none =>
    let (name, title) := (String.ofList name, String.ofList d.event.title)
    Logged.write .debug .listing s!"Ignoring unknown property '{name}' on '{title}'"
    return { event := d.event, active := none, pending := 0 }

/-- What a line that is neither blank nor a further line of the active property does. -/
def readHeader (d : Draft) (line : Text) : Logged Draft := do
  if isDateLine line then
    let (start, finish) ← readRange d.event.title (trim line)
    return d.setDates start finish
  match property? propertyIndent line with
  | some (name, value) => d.setNamed name value
  | none => return { d with pending := 0 }

/-- What a line does. -/
def readLine (d : Draft) (line : Text) : Logged Draft := do
  if isBlankLine line then return d.skipBlank
  match d.active with
  | some p => if isContinuation line then return d.extend p line else d.readHeader line
  | none => d.readHeader line

/-- What lines do one after the other. -/
def readLines (d : Draft) : List Text → Logged Draft
  | [] => return d
  | line :: lines => do (← d.readLine line).readLines lines

end Draft

/-- The event that a section describes, if its heading names a known calendar. -/
def Section.event (titles : List Text) (s : Section) : Logged (Option Event) := do
  match startEvent titles s.heading with
  | some e => return some (← Draft.readLines { event := e } s.body).event
  | none =>
    Logged.write .debug .listing
      s!"Skipping bullet without a known calendar: {String.ofList (quoted (bullet ++ s.heading))}"
    return none

/-- A test of events, which may fail for a reason. -/
abbrev Filter (ε : Type) := Event → Except ε Bool

/-- The test that every event passes. -/
def acceptAll {ε : Type} : Filter ε := fun _ => .ok true

/-- The events of sections that pass a test, each with the number of lines that had been read when it
was complete. Reading ends at the first event that the test fails on. -/
def eventsOfSections {ε : Type} (titles : List Text) (accept : Filter ε) :
    List Section → Logged (Except ε (List (Nat × Event)))
  | [] => return .ok []
  | s :: rest => do
    match ← s.event titles with
    | none => eventsOfSections titles accept rest
    | some e =>
      match accept e with
      | .error fault => return .error fault
      | .ok keep =>
        let more ← eventsOfSections titles accept rest
        return more.map fun es => if keep then (s.reach, e) :: es else es

/-- The events of a listing that pass a test, with the numbers of lines read. -/
def eventsWithReach {ε : Type} (titles : List Text) (accept : Filter ε) (lines : List Text) :
    Logged (Except ε (List (Nat × Event))) :=
  eventsOfSections titles accept (sections lines)

/-- The events of a listing that pass a test, with a message about their number. -/
def readEvents {ε : Type} (known : List Calendar) (accept : Filter ε) (lines : List Text) :
    Logged (Except ε (List Event)) := do
  match ← eventsWithReach (known.map (·.title)) accept lines with
  | .error fault => return .error fault
  | .ok found =>
    Logged.write .info .listing s!"Parsed {found.length} events"
    return .ok (found.map (·.2))

end AgendaLinks.Listing
