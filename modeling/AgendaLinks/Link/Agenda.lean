import AgendaLinks.Link.Account
import AgendaLinks.Link.Choice
import AgendaLinks.Link.Extract
import AgendaLinks.Link.Validity

/-!
The links of events. Of the links in the texts of an event those that cannot be followed and those
that a rule ignores are left out. The others are told apart by their kind; links to meetings are
changed for the account to join with, and the best one of them comes first. An event whose links
cannot be told has none, and the other events do not suffer from it.
-/

namespace AgendaLinks.Link

/-- Why the links of an event cannot be told. -/
inductive AgendaFault where
  | markup (fault : Markup.Fault)
  | uri (fault : UriFault)
  deriving DecidableEq, Repr

def AgendaFault.message : AgendaFault → String
  | markup fault => fault.message
  | uri fault => fault.message

/-- Whether one of some rules ignores a link of an event. -/
def isIgnored (rules : List Rule) (e : Event) (t : Text) : Logged Bool := do
  if Rule.anyApplies rules e (some t) then
    let (url, title) := (String.ofList t, String.ofList e.title)
    Logged.write .debug .links s!"Ignoring URL {url} on '{title}'"
    return true
  return false

/-- Links of an event by their kind. -/
structure Sorted where
  meetings : List Text := []
  others : List Text := []
  deriving DecidableEq, Repr

/-- A link of an event by its kind, changed if it leads to a meeting; nothing if it is left out. -/
def sortOne (c : Configuration) (e : Event) (t : Text) : Logged (Except UriFault Sorted) := do
  if !(← isValid t) then return .ok {}
  if ← isIgnored c.ignore e t then return .ok {}
  match kind? t with
  | .error fault => return .error fault
  | .ok none => return .ok {}
  | .ok (some .other) => return .ok { others := [t] }
  | .ok (some .meeting) => return (← augment c e t).map fun t => { meetings := [t] }

/-- Links of an event by their kind, up to the first one whose parts cannot be told. -/
def sortLinks (c : Configuration) (e : Event) : List Text → Logged (Except UriFault Sorted)
  | [] => return .ok {}
  | t :: ts => do
    match ← sortOne c e t with
    | .error fault => return .error fault
    | .ok first =>
      return (← sortLinks c e ts).map fun rest =>
        ⟨first.meetings ++ rest.meetings, first.others ++ rest.others⟩

/-- The links of an event, the best one to a meeting first. -/
def linksOf (c : Configuration) (e : Event) : Logged (Except AgendaFault (List Text)) := do
  match ofEvent e with
  | .error fault => return .error (.markup fault)
  | .ok found =>
    match ← sortLinks c e found with
    | .error fault => return .error (.uri fault)
    | .ok sorted =>
      return ((best? sorted.meetings).mapError .uri).map fun meeting =>
        combine meeting sorted.others

/-- Whether the first of some links leads to a meeting. -/
def leadsToMeeting : List Text → Except UriFault Bool
  | [] => .ok false
  | t :: _ => (kind? t).map (· == some .meeting)

/-- An event with its links, and whether the first of them leads to a meeting. -/
def withLinks (c : Configuration) (e : Event) : Logged (Event × Bool) := do
  let found : Except AgendaFault (List Text × Bool) := match ← linksOf c e with
    | .error fault => .error fault
    | .ok links =>
      ((leadsToMeeting links).mapError AgendaFault.uri).map fun first => (links, first)
  match found with
  | .ok (links, first) => return ({ e with urls := links }, first)
  | .error fault => do
    let title := String.ofList e.title
    Logged.write .warning .events s!"Failed to process URLs of event '{title}': {fault.message}"
    return ({ e with urls := [] }, false)

/-- Events with their links, with a message about their numbers. -/
def processEvents (c : Configuration) (events : List Event) : Logged (List Event) := do
  let done ← events.mapM (withLinks c)
  let count := (done.filter (·.2)).length
  Logged.write .info .events
    s!"Processed URLs of {events.length} events, {count} with a meeting URL"
  return done.map (·.1)

end AgendaLinks.Link
