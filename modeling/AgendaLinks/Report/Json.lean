import AgendaLinks.Calendar
import AgendaLinks.Event
import AgendaLinks.Text.Quoted

/-!
Reports in JSON. Short ones stand in one line of ASCII characters; long ones go over several lines with
two spaces for every level, and only what has to be escaped is.
-/

namespace AgendaLinks

/-- The values of a report. -/
inductive Json where
  | null
  | text (t : Text)
  | list (items : List Json)
  | object (fields : List (String × Json))

namespace Json

/-- A text, or null when there is none. -/
def ofOption (t : Option Text) : Json := t.elim null text

private def unitText (n : Nat) : Text := '\\' :: 'u' :: Text.hexPadded 4 n

/-- The escapes that a character has however it is written. -/
private def shortEscape? (c : Char) : Option Text :=
  if c = '"' then some ['\\', '"']
  else if c = '\\' then some ['\\', '\\']
  else if c = '\n' then some ['\\', 'n']
  else if c = '\r' then some ['\\', 'r']
  else if c = '\t' then some ['\\', 't']
  else if c.toNat = 8 then some ['\\', 'b']
  else if c.toNat = 12 then some ['\\', 'f']
  else none

/-- A character in ASCII; those beyond the sixteenth bit as two units. -/
private def asciiChar (c : Char) : Text :=
  (shortEscape? c).getD <|
    let n := c.toNat
    if 32 ≤ n ∧ n < 127 then [c]
    else if n < 0x10000 then unitText n
    else unitText (0xd800 + (n - 0x10000) / 1024) ++ unitText (0xdc00 + (n - 0x10000) % 1024)

private def wideChar (c : Char) : Text :=
  (shortEscape? c).getD (if c.toNat < 32 then unitText c.toNat else [c])

/-- A text in quotation marks, in ASCII. -/
def asciiText (t : Text) : Text := '"' :: t.flatMap asciiChar ++ ['"']

/-- A text in quotation marks. -/
def wideText (t : Text) : Text := '"' :: t.flatMap wideChar ++ ['"']

private def newLine (depth : Nat) : Text := '\n' :: List.replicate (2 * depth) ' '

mutual

/-- A report over several lines, at a depth. -/
def indented (depth : Nat) : Json → Text
  | null => "null".toList
  | text t => wideText t
  | list [] => "[]".toList
  | list (v :: vs) =>
    '[' :: newLine (depth + 1) ++ indented (depth + 1) v ++ indentedItems (depth + 1) vs ++
      newLine depth ++ [']']
  | object [] => "\x7b\x7d".toList
  | object ((k, v) :: fs) =>
    '\x7b' :: newLine (depth + 1) ++ wideText k.toList ++ ':' :: ' ' :: indented (depth + 1) v ++
      indentedFields (depth + 1) fs ++ newLine depth ++ ['\x7d']

private def indentedItems (depth : Nat) : List Json → Text
  | [] => []
  | v :: vs => ',' :: newLine depth ++ indented depth v ++ indentedItems depth vs

private def indentedFields (depth : Nat) : List (String × Json) → Text
  | [] => []
  | (k, v) :: fs =>
    ',' :: newLine depth ++ wideText k.toList ++ ':' :: ' ' :: indented depth v ++
      indentedFields depth fs

end

/-- A calendar in a report. -/
def ofCalendar (c : Calendar) : Json :=
  object [("title", text c.title), ("type", ofOption c.kind), ("uid", ofOption c.uid)]

/-- An event in a report. -/
def ofEvent (e : Event) : Json :=
  object [("title", text e.title), ("calendar", text e.calendar),
    ("start_at", ofOption (e.startAt.map Stamp.text)),
    ("start_on", ofOption (e.startOn.map Date.text)),
    ("end_at", ofOption (e.endAt.map Stamp.text)), ("end_on", ofOption (e.endOn.map Date.text)),
    ("attendees", e.attendees.elim null fun names => list (names.map text)),
    ("location", ofOption e.location), ("notes", ofOption e.notes), ("url", ofOption e.url),
    ("urls", list (e.urls.map text))]

end Json

/-- A line of the log: its time, the name of its level, the message, the part that wrote it, and an
error if one was met. -/
def logLine (time level message channel : Text) (error : Option Text) : Text :=
  let field (name : String) (value : Text) := Json.asciiText name.toList ++ ':' :: ' ' :: Json.asciiText value
  let fields := [field "timestamp" time, field "level" level, field "message" message,
    field "logger" channel] ++ (error.map (field "exception")).toList
  '\x7b' :: Text.joinWith [',', ' '] fields ++ ['\x7d']

end AgendaLinks
