import AgendaLinks.Time.Stamp

/-!
Reading ISO 8601 texts. The date is written with or without hyphens, as month and day or as week and
day of the week, which may be left out; any one character separates it from the time. The time has
hours, minutes, seconds and a fraction, with colons or without, and an offset or `Z` may follow.
-/

namespace AgendaLinks.Time

/-- A date with the time of day, and the offset when the text names one. -/
structure IsoTime where
  date : Date
  clock : Clock
  offset : Option UtcOffset
  deriving DecidableEq, Repr

namespace Iso

/-- The number of exactly so many digits at the start of a text, and the text after them. -/
private def digits? : Nat → Text → Option (Nat × Text)
  | 0, t => some (0, t)
  | n + 1, c :: t => do
    guard c.isDigit
    let (rest, t) ← digits? n t
    return ((c.toNat - 48) * 10 ^ n + rest, t)
  | _ + 1, [] => none

/-- How many characters the date takes. Between a day of the week and a separator that is itself a
hyphen or a digit, the digits that follow decide. -/
private def dateWidth? (t : Text) : Option Nat :=
  if t.length = 7 then some 7
  else if t[4]? = some '-' then
    if t[5]? = some 'W' then
      if t[8]? = some '-' then
        if t.length = 9 then none
        else if (t[10]?.elim false Char.isDigit) then some 8
        else some 10
      else some 8
    else some 10
  else if t[4]? = some 'W' then
    let reach := 7 + ((t.drop 7).takeWhile Char.isDigit).length
    if reach < 9 then some reach else if reach % 2 = 0 then some 7 else some 8
  else some 8

private def hyphen? (hyphens : Bool) (t : Text) : Option Text :=
  if hyphens then Text.after? ['-'] t else some t

private def date? (t : Text) : Option Date := do
  let (year, t) ← digits? 4 t
  let hyphens := t.head? == some '-'
  let t := if hyphens then t.drop 1 else t
  match t with
  | 'W' :: t =>
    let (week, t) ← digits? 2 t
    if t.isEmpty then Date.ofWeek? year week 1
    else do
      let (day, rest) ← digits? 1 (← hyphen? hyphens t)
      guard (rest = [])
      Date.ofWeek? year week day
  | t =>
    let (month, t) ← digits? 2 t
    let (day, rest) ← digits? 2 (← hyphen? hyphens t)
    guard (rest = [])
    Date.ofParts? year month day

/-- Four numbers: hours, minutes, seconds and microseconds. -/
private abbrev Parts := Nat × Nat × Nat × Nat

/-- The digits of a fraction as microseconds, and whether other characters follow them. -/
private def fraction? (t : Text) : Option (Nat × Bool) := do
  let width := min t.length 6
  let (value, rest) ← digits? width t
  return (value * 10 ^ (6 - width), (rest.dropWhile Char.isDigit) ≠ [])

/-- The numbers of a time, and whether other characters follow them. Each of the three numbers is
followed by the end, by a colon if the first one is, or by the mark of a fraction. -/
private def parts? (t : Text) : Option (Parts × Bool) := do
  let (hour, t) ← digits? 2 t
  match t with
  | [] => return ((hour, 0, 0, 0), false)
  | c :: rest =>
    let colons := c = ':'
    if rest.isEmpty then return ((hour, 0, 0, 0), true)
    else if c = '.' ∨ c = ',' then
      let (micro, more) ← fraction? rest
      return ((hour, 0, 0, micro), more)
    let (minute, t) ← digits? 2 (if colons then rest else t)
    match t with
    | [] => return ((hour, minute, 0, 0), false)
    | c :: rest =>
      if rest.isEmpty then return ((hour, minute, 0, 0), true)
      else if c = '.' ∨ c = ',' then
        let (micro, more) ← fraction? rest
        return ((hour, minute, 0, micro), more)
      guard (colons = (c = ':'))
      let (second, t) ← digits? 2 (if colons then rest else t)
      match t with
      | [] => return ((hour, minute, second, 0), false)
      | c :: rest =>
        if rest.isEmpty then return ((hour, minute, second, 0), true)
        guard (c = '.' ∨ c = ',' ∨ colons = (c = ':'))
        let (micro, more) ← fraction? (if c = '.' ∨ c = ',' ∨ colons then rest else t)
        return ((hour, minute, second, micro), more)

private def startsOffset (c : Char) : Bool := c == '+' || c == '-' || c == 'Z'

/-- The offset that a text names; one of less than a second counts as zero. -/
private def offset? : Text → Option UtcOffset
  | ['Z'] => some .zero
  | sign :: t => do
    guard (sign ≠ 'Z')
    let ((hour, minute, second, micro), more) ← parts? t
    guard (more = false)
    let seconds := (hour * 60 + minute) * 60 + second
    if seconds = 0 then return .zero
    let size : Int := seconds * 1000000 + micro
    UtcOffset.ofMicros? (if sign = '-' then -size else size)
  | [] => none

private def time? (t : Text) : Option (Clock × Option UtcOffset) := do
  let (clockText, offsetText) := t.span (!startsOffset ·)
  let ((hour, minute, second, micro), more) ← parts? clockText
  let clock ← Clock.ofParts? hour minute second micro
  if offsetText.isEmpty then
    guard (more = false)
    return (clock, none)
  else return (clock, some (← offset? offsetText))

end Iso

/-- The date and time that a whole text names; without a time it is midnight. -/
def readIso? (t : Text) : Option IsoTime := do
  guard (7 ≤ t.length)
  let width ← Iso.dateWidth? t
  let date ← Iso.date? (t.take width)
  match t.drop width with
  | [] => return ⟨date, .midnight, none⟩
  | _ :: timeText =>
    let (clock, offset) ← Iso.time? timeText
    return ⟨date, clock, offset⟩

end AgendaLinks.Time
