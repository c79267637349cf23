import AgendaLinks.Time.Stamp

/-!
Events of a calendar. A start or an end is a day, and for events that do not take whole days also a
point in time on it.
-/

namespace AgendaLinks

/-- One occurrence of an event. -/
structure Event where
  title : Text
  calendar : Text
  startAt : Option Stamp := none
  startOn : Option Date := none
  endAt : Option Stamp := none
  endOn : Option Date := none
  attendees : Option (List Text) := none
  location : Option Text := none
  notes : Option Text := none
  url : Option Text := none
  /-- The links chosen for the event, the one to open first. -/
  urls : List Text := []
  deriving DecidableEq, Repr

end AgendaLinks
