import AgendaLinks.Rule.Basic

/-!
Configurations: which calendars to read, which links to ignore, which accounts to join with, and which
commands open links. Where several entries apply, the first one in the document counts.
-/

namespace AgendaLinks

/-- What is chosen when one of some rules applies. -/
structure Choice where
  chosen : Text
  rules : List Rule

/-- The first of some choices that applies to an event and a link. -/
def Choice.first? (choices : List Choice) (e : Event) (link : Option Text) : Option Text :=
  (choices.find? fun c => Rule.anyApplies c.rules e link).map (·.chosen)

/-- The services whose links are changed for an account. -/
inductive AccountKind where
  | google
  | zoom
  deriving DecidableEq, Repr

namespace AccountKind

def name : AccountKind → String
  | google => "google"
  | zoom => "zoom"

/-- The service with a name. -/
def named? (name : Text) : Option AccountKind := [google, zoom].find? (·.name.toList = name)

end AccountKind

/-- A configuration. -/
structure Configuration where
  /-- Titles of the calendars to read; all are read when there are no patterns. -/
  calendars : List Pattern := []
  ignore : List Rule := []
  google : List Choice := []
  zoom : List Choice := []
  /-- Commands for opening links, each with one place for the link. -/
  openers : List Choice := []

namespace Configuration

/-- Whether a calendar is to be read. -/
def includes (c : Configuration) (title : Text) : Bool :=
  c.calendars.isEmpty || c.calendars.any (·.accepts title)

/-- The accounts of a service. -/
def accounts (c : Configuration) : AccountKind → List Choice
  | .google => c.google
  | .zoom => c.zoom

/-- The account of a service that an event and a link are joined with. -/
def account? (c : Configuration) (kind : AccountKind) (e : Event) (link : Option Text) :
    Option Text :=
  Choice.first? (c.accounts kind) e link

end Configuration

end AgendaLinks
