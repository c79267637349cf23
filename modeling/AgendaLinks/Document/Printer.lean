import AgendaLinks.Document.Value
import AgendaLinks.Number.Shortest
import AgendaLinks.Text.Quoted

/-!
The text of a value in a message. Texts are quoted, lists stand in brackets, mappings and sets in
braces, and dates are written with the numbers that make them. A value is writable when none of its
whole numbers has more than 4300 digits.
-/

namespace AgendaLinks.Value

/-- The word for the kind of a value. -/
def kindName : Value → String
  | null => "NoneType"
  | bool _ => "bool"
  | int _ => "int"
  | float _ => "float"
  | text _ => "str"
  | bytes _ => "bytes"
  | date _ => "date"
  | moment .. => "datetime"
  | list _ => "list"
  | pair .. => "tuple"
  | mapping _ => "dict"
  | set _ => "set"

private def quotedByte (mark : Char) (b : UInt8) : Text :=
  let c := Char.ofNat b.toNat
  if b < 0x80 then Text.quotedChar mark c else '\\' :: 'x' :: Text.hexPadded 2 b.toNat

private def quotedBytes (b : List UInt8) : Text :=
  let mark := Text.quoteMark (b.map fun x => Char.ofNat x.toNat)
  'b' :: mark :: b.flatMap (quotedByte mark) ++ [mark]

private def commas (items : List Text) : Text := Text.joinWith [',', ' '] items

/-- A length of time with its days, seconds and microseconds, the last two not negative. -/
def durationText (micros : Int) : Text :=
  let days := micros / dayMicros
  let rest := (micros % dayMicros).toNat
  let parts := (if days = 0 then [] else ["days=".toList ++ Text.ofInt days]) ++
    (if rest / 1000000 = 0 then [] else ["seconds=".toList ++ Text.ofNat (rest / 1000000)]) ++
    (if rest % 1000000 = 0 then [] else ["microseconds=".toList ++ Text.ofNat (rest % 1000000)])
  "datetime.timedelta(".toList ++ (if parts.isEmpty then ['0'] else commas parts) ++ [')']

private def zoneText (o : UtcOffset) : Text :=
  if o.micros = 0 then "datetime.timezone.utc".toList
  else "datetime.timezone(".toList ++ durationText o.micros ++ [')']

private def dateNumbers (d : Date) : List Text :=
  [Text.ofNat d.year, Text.ofNat d.month, Text.ofNat d.day]

private def momentText (d : Date) (c : Clock) (o : Option UtcOffset) : Text :=
  let seconds := if c.second = 0 ∧ c.micro = 0 then [] else [Text.ofNat c.second]
  let micros := if c.micro = 0 then [] else [Text.ofNat c.micro]
  let zone := match o with
    | none => []
    | some o => ["tzinfo=".toList ++ zoneText o]
  "datetime.datetime(".toList ++
    commas (dateNumbers d ++ [Text.ofNat c.hour, Text.ofNat c.minute] ++ seconds ++ micros ++ zone) ++
    [')']

mutual

/-- A value as it is shown in a message. -/
def shown : Value → Text
  | null => "None".toList
  | bool b => (if b then "True" else "False").toList
  | int i => Text.ofInt i
  | float d => d.text
  | text t => Text.quoted t
  | bytes b => quotedBytes b
  | date d => "datetime.date(".toList ++ commas (dateNumbers d) ++ [')']
  | moment d c o => momentText d c o
  | list items => '[' :: commas (shownItems items) ++ [']']
  | pair a b => '(' :: shown a ++ ',' :: ' ' :: shown b ++ [')']
  | mapping entries => '{' :: commas (shownEntries entries) ++ ['}']
  | set items => if items.isEmpty then "set()".toList else '{' :: commas (shownItems items) ++ ['}']

private def shownItems : List Value → List Text
  | [] => []
  | v :: vs => shown v :: shownItems vs

private def shownEntries : List (Value × Value) → List Text
  | [] => []
  | (k, v) :: rest => (shown k ++ ':' :: ' ' :: shown v) :: shownEntries rest

end

/-- A value as a name: a text without marks, a date in ISO form, anything else as it is shown. -/
def plain : Value → Text
  | text t => t
  | date d => d.isoText
  | moment d c o => d.isoText ++ ' ' :: c.isoText ++ (o.elim [] (UtcOffset.textWith [':']))
  | v => shown v

mutual

/-- Whether every whole number in a value is short enough to be written. -/
def writable : Value → Bool
  | int i => i.natAbs < 10 ^ 4300
  | list items => writableItems items
  | set items => writableItems items
  | pair a b => writable a && writable b
  | mapping entries => writableEntries entries
  | _ => true

def writableItems : List Value → Bool
  | [] => true
  | v :: vs => writable v && writableItems vs

def writableEntries : List (Value × Value) → Bool
  | [] => true
  | (k, v) :: rest => writable k && writable v && writableEntries rest

end

end AgendaLinks.Value
