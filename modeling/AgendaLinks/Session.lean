import AgendaLinks.Configuration.Reader
import AgendaLinks.Link.Agenda
import AgendaLinks.Listing.Calendars
import AgendaLinks.Listing.Events
import AgendaLinks.Shell.Opener
import AgendaLinks.Window

/-!
Sessions: a configuration, calendars and events that steps replace, extend or read. A step that fails
leaves everything as it is.
-/

namespace AgendaLinks

/-- What a session remembers between its steps. -/
structure Session where
  configuration : Configuration := {}
  calendars : List Calendar := []
  events : List Event := []

namespace Session

/-- A step of a session. -/
inductive Step where
  | configure (document : Value)
  | readCalendars (lines : List Text)
  | filterCalendars
  | readEvents (window : Option Window) (extend : Bool) (lines : List Text)
  | add (event : Event)
  | set (index : Nat) (field : Field) (value : Option Text)
  | keep (window : Window)
  | process
  | openFirst
  | templates (index : Nat) (fallback : Text)

/-- What a step answers. -/
inductive Answer where
  | configuration (c : Configuration)
  | calendars (found : List Calendar)
  | events (all : List Event)
  | event (e : Event)
  | titles (kept : List Text)
  | links (all : List (List Text))
  | command (c : Option Text)
  | templates (ts : List Text)

/-- Why a step fails. -/
inductive Fault where
  | configuration (fault : ConfigurationFault)
  | window (fault : WindowFault)
  | noEvent

def Fault.message : Fault → String
  | configuration fault => fault.message
  | window fault => fault.message
  | noEvent => "list index out of range"

/-- The command that opens links when no entry applies. -/
def fallback : Text := Shell.defaultTemplate "linux".toList

/-- An event with another text in a field. -/
def setField (e : Event) (value : Option Text) : Field → Event
  | .title => { e with title := value.getD [] }
  | .calendar => { e with calendar := value.getD [] }
  | .location => { e with location := value }
  | .notes => { e with notes := value }
  | .url => { e with url := value }
  | .attendee => e

/-- The test that a window of time makes, if there is one. -/
def filterOf (window : Option Window) : Listing.Filter WindowFault :=
  window.elim Listing.acceptAll Window.includes

/-- The events in a window of time. -/
def eventsIn (w : Window) : List Event → Except WindowFault (List Event)
  | [] => .ok []
  | e :: es => do
    let inside ← w.includes e
    let rest ← eventsIn w es
    return if inside then e :: rest else rest

/-- A step: its answer, and the session after it. -/
def step (s : Session) : Step → Logged (Except Fault (Answer × Session))
  | .configure document =>
    return match Configuration.ofValue document with
      | .ok c => .ok (.configuration c, { s with configuration := c })
      | .error fault => .error (.configuration fault)
  | .readCalendars lines => do
    let found ← Listing.readCalendars lines
    return .ok (.calendars found, { s with calendars := found })
  | .filterCalendars =>
    let kept := s.calendars.filter fun c => s.configuration.includes c.title
    return .ok (.calendars kept, { s with calendars := kept })
  | .readEvents window extend lines => do
    match ← Listing.readEvents s.calendars (filterOf window) lines with
    | .error fault => return .error (.window fault)
    | .ok found =>
      let all := if extend then s.events ++ found else found
      return .ok (.events all, { s with events := all })
  | .add e =>
    let all := s.events ++ [e]
    return .ok (.events all, { s with events := all })
  | .set index field value =>
    return match s.events[index]? with
      | none => .error .noEvent
      | some e =>
        let e := setField e value field
        .ok (.event e, { s with events := s.events.set index e })
  | .keep window =>
    return match eventsIn window s.events with
      | .error fault => .error (.window fault)
      | .ok kept => .ok (.titles (kept.map (·.title)), { s with events := kept })
  | .process => do
    let es ← Link.processEvents s.configuration s.events
    return .ok (.links (es.map (·.urls)), { s with events := es })
  | .openFirst => do
    let command ← Shell.openFirst s.configuration.openers fallback s.events
    return .ok (.command command, s)
  | .templates index fallback =>
    match s.events[index]? with
    | none => return .error .noEvent
    | some e => do
      let ts ← e.urls.mapM (Shell.template s.configuration.openers fallback e)
      return .ok (.templates ts, s)

/-- Steps one after the other. -/
def run (s : Session) : List Step → Logged (List (Except Fault Answer))
  | [] => return []
  | first :: rest => do
    match ← s.step first with
    | .ok (answer, after) => return .ok answer :: (← run after rest)
    | .error fault => return .error fault :: (← run s rest)

end Session

end AgendaLinks
