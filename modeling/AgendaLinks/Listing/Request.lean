import AgendaLinks.Calendar
import AgendaLinks.Listing.Line
import AgendaLinks.Window

/-!
What the program that lists calendars is asked. Events are asked for in the form that the readers of
the listing expect.
-/

namespace AgendaLinks.Listing

/-- The arguments that ask for the calendars. -/
def calendarsRequest : List Text := ["calendars".toList]

private def properties : Text := "title,datetime,location,url,notes,attendees".toList

/-- The arguments that ask for the events of calendars in a window of time; of all calendars when none
is named. -/
def eventsRequest (known : List Calendar) (w : Window) : List Text :=
  ["--noRelativeDates".toList, "--bullet".toList, bullet, "--dateFormat".toList, "%Y-%m-%d".toList,
    "--timeFormat".toList, "T%H:%M:%S%z".toList, "--includeEventProps".toList, properties,
    "--propertyOrder".toList, properties] ++
  (if known.isEmpty then []
    else ["--includeCals".toList, Text.joinWith [','] (known.map Calendar.identifier)]) ++
  ["eventsFrom:".toList ++ w.start.spacedText, "to:".toList ++ w.finish.spacedText]

end AgendaLinks.Listing
