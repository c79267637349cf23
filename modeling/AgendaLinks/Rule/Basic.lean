import AgendaLinks.Event
import AgendaLinks.Rule.Pattern

/-!
Rules about links of events. A rule constrains fields of the event and the link itself; it applies
when every constrained field is there and has its pattern, so a rule without constraints always
applies. Of several attendees one is enough.
-/

namespace AgendaLinks

/-- What a rule can constrain. -/
inductive Field where
  | calendar
  | title
  | location
  | notes
  | url
  | attendee
  deriving DecidableEq, Repr

namespace Field

def all : List Field := [calendar, title, location, notes, url, attendee]

def name : Field → String
  | calendar => "calendar"
  | title => "title"
  | location => "location"
  | notes => "notes"
  | url => "url"
  | attendee => "attendee"

/-- The field with a name. -/
def named? (name : Text) : Option Field := all.find? (·.name.toList = name)

/-- The texts that a field has in an event with a link; none when it is missing. -/
def subjects (e : Event) (link : Option Text) : Field → List Text
  | calendar => [e.calendar]
  | title => [e.title]
  | location => e.location.toList
  | notes => e.notes.toList
  | url => link.toList
  | attendee => e.attendees.getD []

end Field

/-- A field with the pattern that it must have. -/
structure Constraint where
  field : Field
  pattern : Pattern

/-- Whether one of the texts of the field has the pattern. -/
def Constraint.holds (c : Constraint) (e : Event) (link : Option Text) : Bool :=
  (c.field.subjects e link).any c.pattern.accepts

/-- A rule: constraints that have to hold together. -/
structure Rule where
  constraints : List Constraint := []

namespace Rule

/-- Whether a rule applies to an event and a link. -/
def applies (r : Rule) (e : Event) (link : Option Text) : Bool :=
  r.constraints.all (·.holds e link)

/-- Whether one of several rules applies. -/
def anyApplies (rules : List Rule) (e : Event) (link : Option Text) : Bool :=
  rules.any (·.applies e link)

end Rule

end AgendaLinks
