import AgendaLinks.Number.Whole
import AgendaLinks.Text.Casing
import AgendaLinks.Yaml.Tag
import AgendaLinks.Yaml.Fault

/-!
The values of scalars. Numbers may be written in several bases, with low lines among their digits, and
in groups of sixty with colons between them; times are dates with or without a time of day and an
offset.
-/

namespace AgendaLinks.Yaml

/-! ### Numbers -/

private def letterValue? (c : Char) : Option Nat :=
  if 'a' ≤ c ∧ c ≤ 'z' then some (c.toNat - 87)
  else if 'A' ≤ c ∧ c ≤ 'Z' then some (c.toNat - 55)
  else Text.digitValue? c

private def baseLetters (base : Nat) : List Char :=
  if base = 16 then ['x', 'X'] else if base = 8 then ['o', 'O'] else if base = 2 then ['b', 'B'] else []

/-- A text without a sign, and whether the sign is a minus. -/
private def splitSign : Text → Bool × Text
  | '-' :: t => (true, t)
  | '+' :: t => (false, t)
  | t => (false, t)

private def withoutBase (base : Nat) : Text → Text
  | '0' :: c :: t => if (baseLetters base).contains c then t else '0' :: c :: t
  | t => t

/-- The whole number that a text writes in a base, with a sign and the letter of the base if it has
them. Only in powers of two may it have any number of digits. -/
private def wholeIn (base : Nat) (t : Text) : Except Fault Int :=
  let (negative, body) := splitSign (Text.trim t)
  let body := withoutBase base body
  let digits := (body.map fun c => (letterValue? c).filter (· < base)).takeWhile Option.isSome
  if base = 10 ∧ 4300 < digits.length then .error (.tooManyDigits digits.length)
  else if digits.length < body.length ∨ body.isEmpty then .error (.badWhole base t)
  else
    let size : Int := ofDigits base (digits.filterMap id)
    .ok (if negative then -size else size)

/-- What the parts of a number in groups of sixty add up to. -/
private def sixties (parts : List Int) : Int := parts.foldl (fun n part => n * 60 + part) 0

private def wholeSize (t : Text) : Except Fault Int :=
  if t = ['0'] then .ok 0
  else match Text.after? ['0', 'b'] t, Text.after? ['0', 'x'] t with
    | some digits, _ => wholeIn 2 digits
    | none, some digits => wholeIn 16 digits
    | none, none =>
      match t with
      | [] => .error .emptyNumber
      | '0' :: _ => wholeIn 8 t
      | _ => sixties <$> (Text.pieces ':' t).mapM (wholeIn 10)

/-- The whole number of a scalar. -/
private def wholeNumber (t : Text) : Except Fault Int := do
  let t := t.filter (· ≠ '_')
  if t.isEmpty then throw .emptyNumber
  let (negative, size) := splitSign t
  let size ← wholeSize size
  return if negative then -size else size

private def exponent? : Text → Option Int
  | [] => some 0
  | c :: t => do
    guard (c = 'e' ∨ c = 'E')
    let (negative, digits) := splitSign t
    guard (!digits.isEmpty)
    let size : Int := ofDigits 10 (← digits.mapM Text.digitValue?)
    return if negative then -size else size

/-- The number that a text in small letters writes in decimal digits. -/
private def decimal? (t : Text) : Option Double := do
  let (negative, t) := splitSign (Text.trim t)
  if t = "inf".toList ∨ t = "infinity".toList then return .infinite negative
  if t = "nan".toList then return .notNumber
  let (whole, rest) := t.span Text.isDecimal
  let (places, rest) := match rest with
    | '.' :: rest => rest.span Text.isDecimal
    | rest => ([], rest)
  guard (!(whole ++ places).isEmpty)
  let digits ← (whole ++ places).mapM Text.digitValue?
  return .ofDecimal negative (ofDigits 10 digits) ((← exponent? rest) - places.length)

private def decimal (t : Text) : Except Fault Double :=
  match decimal? t with
  | some d => .ok d
  | none => .error (.badNumber t)

/-- The sum of parts from the last to the first, each of them sixty times as large as the one after
it. -/
private def weighted : Nat → List Double → Double → Double
  | _, [], sum => sum
  | weight, d :: ds, sum => weighted (weight * 60) ds (sum.add (d.scale weight))

/-- The number of a scalar. -/
private def number (t : Text) : Except Fault Double := do
  let t := Text.lower (t.filter (· ≠ '_'))
  if t.isEmpty then throw .emptyNumber
  let (negative, size) := splitSign t
  let signed (d : Double) := if negative then d.neg else d
  if size = ".inf".toList then return .infinite negative
  if size = ".nan".toList then return .notNumber
  match ← (Text.pieces ':' size).mapM decimal with
  | [d] => return signed d
  | ds => return signed (weighted 1 ds.reverse (.ofNat 0))

/-! ### Times -/

private def digits? (width : Nat) (t : Text) : Option (Nat × Text) := do
  let digits := t.takeWhile Char.isDigit
  guard (width ≤ digits.length)
  return (ofDigits 10 ((digits.take width).map fun c => c.toNat - 48), t.drop width)

private def oneOrTwo? (t : Text) : Option (Nat × Text) := (digits? 2 t).or (digits? 1 t)

private def zoneHead (t : Text) : Option (Text × Text) :=
  match t with
  | c :: rest => if c = '+' ∨ c = '-' then some ([c], rest) else none
  | [] => none

/-- An offset in microseconds, if there is one, after which the text ends. -/
private def zone? (t : Text) : Option (Option Int) := do
  let ends (t : Text) := t.isEmpty || t == ['\n']
  if ends t then return none
  let t := t.dropWhile fun c => c = ' ' ∨ c = '\t'
  match zoneHead t with
  | none =>
    let rest ← Text.after? ['Z'] t
    guard (ends rest)
    return some 0
  | some (sign, t) =>
    let (hour, t) ← oneOrTwo? t
    let (minute, t) ← match t with
      | ':' :: t => digits? 2 t
      | t => some (0, t)
    guard (ends t)
    let size : Int := (hour * 60 + minute) * 60000000
    return some (if sign = ['-'] then -size else size)

/-- The parts of a time of day: hour, minute, second, microseconds and offset. -/
private def clock? (t : Text) : Option (Nat × Nat × Nat × Nat × Option Int) := do
  let (hour, t) ← oneOrTwo? t
  let (minute, t) ← digits? 2 (← Text.after? [':'] t)
  let (second, t) ← digits? 2 (← Text.after? [':'] t)
  let (places, t) := match t with
    | '.' :: t => t.span Char.isDigit
    | t => ([], t)
  let micro := ofDigits 10 (((places ++ List.replicate 6 '0').take 6).map fun c => c.toNat - 48)
  return (hour, minute, second, micro, ← zone? t)

/-- The parts of a time: year, month, day, and those of the time of day if it has one. -/
private def timeParts? (t : Text) :
    Option ((Nat × Nat × Nat) × Option (Nat × Nat × Nat × Nat × Option Int)) := do
  let (year, t) ← digits? 4 t
  let (month, t) ← oneOrTwo? (← Text.after? ['-'] t)
  let (day, t) ← oneOrTwo? (← Text.after? ['-'] t)
  match t with
  | [] | ['\n'] => return ((year, month, day), none)
  | c :: rest =>
    let gap := t.takeWhile fun c => c = ' ' ∨ c = '\t'
    guard (c = 'T' ∨ c = 't' ∨ !gap.isEmpty)
    return ((year, month, day), some (← clock? (if gap.isEmpty then rest else t.drop gap.length)))

/-- The time of a scalar. -/
private def time (t : Text) : Except Fault Value := do
  match timeParts? t with
  | none => throw .notTime
  | some ((year, month, day), none) =>
    return .date (← (Date.ofParts year month day).mapError .date)
  | some ((year, month, day), some (hour, minute, second, micro, zone)) =>
    let offset ← match zone with
      | none => pure none
      | some micros =>
        match UtcOffset.ofMicros? micros with
        | some o => pure (some o)
        | none => throw (.offset micros)
    let date ← (Date.ofParts year month day).mapError .date
    let clock ← (Clock.ofParts hour minute second micro).mapError .clock
    return .moment date clock offset

/-! ### Bytes -/

private def sextet? (c : Char) : Option Nat :=
  if c.isUpper then some (c.toNat - 65)
  else if c.isLower then some (c.toNat - 71)
  else if c.isDigit then some (c.toNat + 4)
  else if c = '+' then some 62
  else if c = '/' then some 63
  else none

/-- Bytes from groups of four letters of six bits each. Other characters are passed over; the equals
signs that fill the last group end the text. -/
private def bytesFrom : List Nat → Nat → Text → Option (List UInt8)
  | group, _, [] => if group.isEmpty then some [] else none
  | group, pads, c :: t =>
    if c = '=' then
      if 2 ≤ group.length ∧ 4 ≤ group.length + pads + 1 then some []
      else bytesFrom group (if 2 ≤ group.length then pads + 1 else pads) t
    else match sextet? c with
      | none => bytesFrom group pads t
      | some n => match group with
        | [] => bytesFrom [n] 0 t
        | [a] => (UInt8.ofNat (a * 4 + n / 16) :: ·) <$> bytesFrom [a, n] 0 t
        | [a, b] => (UInt8.ofNat (b % 16 * 16 + n / 4) :: ·) <$> bytesFrom [a, b, n] 0 t
        | _ :: _ :: c :: _ => (UInt8.ofNat (c % 4 * 64 + n) :: ·) <$> bytesFrom [] 0 t

/-! ### Values -/

private def truths : List (String × Bool) :=
  [("yes", true), ("no", false), ("true", true), ("false", false), ("on", true), ("off", false)]

/-- The value of a scalar of a kind. -/
def scalarValue (tag : Tag) (t : Text) : Except Fault Value :=
  match tag with
  | .null => .ok .null
  | .bool =>
    let t := Text.lower t
    match truths.find? fun w => w.1.toList = t with
    | some (_, b) => .ok (.bool b)
    | none => .error (.notTruth t)
  | .int => .int <$> wholeNumber t
  | .float => .float <$> number t
  | .binary =>
    if t.all (·.toNat < 128) then
      match bytesFrom [] 0 t with
      | some b => .ok (.bytes b)
      | none => .error .malformed
    else .error .malformed
  | .timestamp => time t
  | .text => .ok (.text t)
  | .list | .mapping | .set | .orderedMap | .pairs | .merge | .value | .unknown => .error .malformed

end AgendaLinks.Yaml
