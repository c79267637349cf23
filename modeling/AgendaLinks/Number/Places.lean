import AgendaLinks.Number.Double

/-!
Numbers written with a chosen number of digits: after the point, or in all. The last digit is rounded,
and a half goes to the even neighbour.
-/

namespace AgendaLinks.Double

/-- The size of a finite number as a numerator and a denominator. -/
def sizeQuotient (mantissa : Nat) (exponent : Int) : Nat × Nat :=
  (mantissa * 2 ^ exponent.toNat, 2 ^ (-exponent).toNat)

/-- Digits with a point before the last so many of them; the point can be asked for where no digit
follows it. -/
def pointed (places : Nat) (point : Bool) (digits : Nat) : Text :=
  let t := Text.padded (places + 1) digits
  let whole := t.take (t.length - places)
  if places = 0 then (if point then whole ++ ['.'] else whole)
  else whole ++ '.' :: t.drop (t.length - places)

def fixedSize (places : Nat) (point : Bool) (mantissa : Nat) (exponent : Int) : Text :=
  let (num, den) := sizeQuotient mantissa exponent
  pointed places point (roundQuotient (num * 10 ^ places) den)

/-- A quotient divided by a power of ten and rounded. -/
private def roundedAt (num den : Nat) (power : Int) : Nat :=
  roundQuotient (num * 10 ^ (-power).toNat) (den * 10 ^ power.toNat)

/-- The largest `k` with `10 ^ k` at most a quotient that is not zero. -/
private def decimalLog (num den : Nat) : Int :=
  if den ≤ num then ((Nat.toDigits 10 (num / den)).length : Int) - 1
  else
    let guess := (Nat.toDigits 10 (den / num)).length
    if den ≤ num * 10 ^ (guess - 1) then -((guess - 1 : Nat) : Int) else -(guess : Int)

/-- The digits of a size, one and so many more, and the power of ten of the first. -/
private def leading (more : Nat) (mantissa : Nat) (exponent : Int) : Nat × Int :=
  if mantissa = 0 then (0, 0)
  else
    let (num, den) := sizeQuotient mantissa exponent
    let power := decimalLog num den
    let digits := roundedAt num den (power - more)
    if digits = 10 ^ (more + 1) then (10 ^ more, power + 1) else (digits, power)

private def powerText (mark : Char) (power : Int) : Text :=
  mark :: (if power < 0 then '-' else '+') :: Text.padded 2 power.natAbs

private def scientificSize (places : Nat) (point : Bool) (mantissa : Nat) (exponent : Int) : Text :=
  let (digits, power) := leading places mantissa exponent
  pointed places point digits ++ powerText 'e' power

private def withoutZeroPlaces (t : Text) : Text :=
  if t.contains '.' then
    ((t.reverse.dropWhile (· = '0')).dropWhile (· = '.')).reverse
  else t

/-- A size with so many digits: positional when its power of ten is from -4 on and there are digits
enough for the whole part. -/
private def generalSize (figures : Nat) (full : Bool) (mantissa : Nat) (exponent : Int) : Text :=
  let more := max figures 1 - 1
  let (digits, power) := leading more mantissa exponent
  let shorten (t : Text) := if full then t else withoutZeroPlaces t
  if -4 ≤ power ∧ power ≤ more then shorten (fixedSize (more - power).toNat full mantissa exponent)
  else shorten (pointed more full digits) ++ powerText 'e' power

/-- The ways to write a number with a chosen number of digits. -/
inductive Style where
  /-- So many digits after the point. -/
  | fixed
  /-- One digit before the point, so many after it, and the power of ten. -/
  | scientific
  /-- So many digits in all, in the shorter of the two ways. -/
  | general
  deriving DecidableEq, Repr

/-- A number with a chosen number of digits; in full, the point is always written and zeros at the end
are kept. -/
def written (style : Style) (digits : Nat) (full : Bool) : Double → Text
  | .notNumber => "nan".toList
  | .infinite negative => (if negative then "-inf" else "inf").toList
  | .finite negative mantissa exponent =>
    let size := match style with
      | .fixed => fixedSize digits full mantissa exponent
      | .scientific => scientificSize digits full mantissa exponent
      | .general => generalSize digits full mantissa exponent
    if negative then '-' :: size else size

end AgendaLinks.Double
