import AgendaLinks.Text.Classes
import AgendaLinks.Time.Stamp

/-!
Reading the dates and times of a listing. A date is `YYYY-MM-DD`, a time follows it after a `T` as
`HH:MM` or `HH:MM:SS` and ends with an offset. Month, day, hour, minute and second may be written
with one digit.
-/

namespace AgendaLinks.Time

open Text

def ascii? (c : Char) : Option Nat := if c.isDigit then some (c.toNat - 48) else none

def month? : Text → Option Nat
  | [a] => ascii? a
  | [a, b] => return 10 * (← ascii? a) + (← ascii? b)
  | _ => none

/-- The last digit of a day, or of an hour, may be of any script where it can have every value. -/
def ofTens? (full : Nat) (a b : Char) : Option Nat := do
  let tens ← ascii? a
  let ones ← digitValue? b
  guard (b.isDigit ∨ (tens ≤ full))
  return 10 * tens + ones

def day? : Text → Option Nat
  | [a] => ascii? a
  | [a, b] => do
    let n ← ofTens? 2 a b
    guard (b.isDigit ∨ 10 ≤ n)
    return n
  | _ => none

def hour? : Text → Option Nat
  | [a] => digitValue? a
  | [a, b] => ofTens? 1 a b
  | _ => none

def minute? : Text → Option Nat
  | [a] => digitValue? a
  | [a, b] => ofTens? 5 a b
  | _ => none

def year? : Text → Option Nat
  | [a, b, c, d] => do
    return ((← digitValue? a) * 10 + (← digitValue? b)) * 100 + (← digitValue? c) * 10 +
      (← digitValue? d)
  | _ => none

/-- The date at the start of a text, and the text after it. -/
def dateThen? (t : Text) : Option (Date × Text) := do
  let (year, rest) := t.span isDecimal
  let rest ← after? ['-'] rest
  let (month, rest) := rest.span isDecimal
  let rest ← after? ['-'] rest
  let (day, rest) := rest.span isDecimal
  let date ← Date.ofParts? (← year? year) (← month? month) (← day? day)
  return (date, rest)

def clockThen? (t : Text) : Option (Clock × Text) := do
  let (hour, rest) := t.span isDecimal
  let rest ← after? [':'] rest
  let (minute, rest) := rest.span isDecimal
  match rest with
  | ':' :: rest =>
    let (second, rest) := rest.span isDecimal
    return (← Clock.ofParts? (← hour? hour) (← minute? minute) (← minute? second) 0, rest)
  | rest => return (← Clock.ofParts? (← hour? hour) (← minute? minute) 0 0, rest)

def two? (a b : Char) : Option Nat := return 10 * (← digitValue? a) + (← digitValue? b)

def underSixty? (a b : Char) : Option Nat := do
  guard ('0' ≤ a ∧ a ≤ '5')
  two? a b

/-- A fraction of a second in one to six digits. -/
def micros? : Text → Option Nat
  | [] => some 0
  | '.' :: digits => do
    guard (1 ≤ digits.length ∧ digits.length ≤ 6)
    let value ← digits.foldlM (fun n c => do return n * 10 + (← digitValue? c)) 0
    return value * 10 ^ (6 - digits.length)
  | _ => none

/-- The seconds of an offset, if any, and their fraction. -/
def offsetSeconds? : Text → Option (Nat × Nat)
  | a :: b :: fraction => return (← underSixty? a b, ← micros? fraction)
  | [] => some (0, 0)
  | _ => none

def offsetParts? : Text → Option (Nat × Nat × Nat × Nat)
  | a :: b :: ':' :: c :: d :: rest => do
    let seconds := if rest.isEmpty then some [] else do
      let rest ← after? [':'] rest
      guard (rest ≠ [])
      return rest
    let (second, micro) ← offsetSeconds? (← seconds)
    return (← two? a b, ← underSixty? c d, second, micro)
  | a :: b :: c :: d :: rest => do
    let (second, micro) ← offsetSeconds? rest
    return (← two? a b, ← underSixty? c d, second, micro)
  | _ => none

/-- The offset that a text names: `Z`, or a sign, hours and minutes, and perhaps seconds with a
fraction, either all with colons between them or none. -/
def readOffset? (t : Text) : Option UtcOffset :=
  if t = ['Z'] then some .zero
  else match t with
    | sign :: parts => do
      guard (sign = '+' ∨ sign = '-')
      let (hour, minute, second, micro) ← offsetParts? parts
      let size : Int := ((hour * 60 + minute) * 60 + second) * 1000000 + micro
      UtcOffset.ofMicros? (if sign = '-' then -size else size)
    | [] => none

/-- The date that a whole text names. -/
def readDate? (t : Text) : Option Date := do
  let (date, rest) ← dateThen? t
  guard (rest = [])
  return date

/-- The date and time that a whole text names. -/
def readStamp? (t : Text) : Option Stamp := do
  let (date, rest) ← dateThen? t
  match rest with
  | c :: rest =>
    guard (c = 'T' ∨ c = 't')
    let (clock, rest) ← clockThen? rest
    return ⟨date, clock, ← readOffset? rest⟩
  | [] => none

end AgendaLinks.Time
