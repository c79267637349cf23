import AgendaLinks.Text.Basic

/-!
Calendars as a listing names them.
-/

namespace AgendaLinks

/-- A calendar with its title, and with its kind and identifier if the listing tells them. -/
structure Calendar where
  title : Text
  kind : Option Text := none
  uid : Option Text := none
  deriving DecidableEq, Repr

namespace Calendar

/-- What a calendar is asked for by: its identifier, or its title when it has none. -/
def identifier (c : Calendar) : Text :=
  match c.uid with
  | none | some [] => c.title
  | some uid => uid

end Calendar

end AgendaLinks
