import AgendaLinks.Text.Basic

/-!
Binary numbers of 53 digits, in exact arithmetic. A finite one is `mantissa * 2 ^ exponent`; every
result is the number of this kind nearest to the exact one, and of two equally near ones the one with
an even mantissa.
-/

namespace AgendaLinks

/-- A number of double precision. -/
inductive Double where
  | finite (negative : Bool) (mantissa : Nat) (exponent : Int)
  | infinite (negative : Bool)
  | notNumber
  deriving DecidableEq, Repr, Inhabited

namespace Double

/-- The quotient of two numbers rounded to a whole one, halves to the even neighbour. -/
def roundQuotient (num den : Nat) : Nat :=
  let whole := num / den
  let rest := 2 * (num % den)
  if rest < den then whole
  else if den < rest then whole + 1
  else if whole % 2 = 0 then whole else whole + 1

/-- The quotient `num / den * 2 ^ -shift` rounded to a whole number. -/
private def scaledQuotient (num den : Nat) (shift : Int) : Nat :=
  if 0 ≤ shift then roundQuotient num (den * 2 ^ shift.toNat)
  else roundQuotient (num * 2 ^ (-shift).toNat) den

/-- The largest `e` with `2 ^ e ≤ num / den`. -/
private def floorLog (num den : Nat) : Int :=
  let guess : Int := (num.log2 : Int) - den.log2
  let reached := if 0 ≤ guess then den * 2 ^ guess.toNat ≤ num
    else den ≤ num * 2 ^ (-guess).toNat
  if reached then guess else guess - 1

/-- The number nearest to a quotient. -/
def ofQuotient (negative : Bool) (num den : Nat) : Double :=
  if num = 0 then .finite negative 0 (-1074)
  else
    let exponent := max (floorLog num den - 52) (-1074)
    let mantissa := scaledQuotient num den exponent
    let (mantissa, exponent) :=
      if mantissa = 2 ^ 53 then (2 ^ 52, exponent + 1) else (mantissa, exponent)
    if 971 < exponent then .infinite negative else .finite negative mantissa exponent

/-- The number nearest to `digits * 10 ^ power`. -/
def ofDecimal (negative : Bool) (digits : Nat) (power : Int) : Double :=
  let width : Int := (Nat.toDigits 10 digits).length
  if digits = 0 ∨ power + width < -330 then .finite negative 0 (-1074)
  else if 310 < power + width then .infinite negative
  else if 0 ≤ power then ofQuotient negative (digits * 10 ^ power.toNat) 1
  else ofQuotient negative digits (10 ^ (-power).toNat)

/-- The number nearest to a whole one. -/
def ofNat (n : Nat) : Double := ofQuotient false n 1

/-- The signed numerator and the denominator of a finite number. -/
private def fraction (negative : Bool) (mantissa : Nat) (exponent : Int) : Int × Nat :=
  let size := if 0 ≤ exponent then mantissa * 2 ^ exponent.toNat else mantissa
  (if negative then -(size : Int) else size, if 0 ≤ exponent then 1 else 2 ^ (-exponent).toNat)

/-- The number nearest to a sum. -/
def add : Double → Double → Double
  | .finite s m e, .finite s' m' e' =>
    let (a, b) := fraction s m e
    let (a', b') := fraction s' m' e'
    let sum := a * b' + a' * b
    ofQuotient (if sum = 0 then s && s' else sum < 0) sum.natAbs (b * b')
  | .infinite s, .infinite s' => if s = s' then .infinite s else .notNumber
  | .infinite s, .finite .. => .infinite s
  | .finite .., .infinite s => .infinite s
  | .notNumber, _ => .notNumber
  | _, .notNumber => .notNumber

/-- The number nearest to a product with a whole one that is not zero. -/
def scale (n : Nat) : Double → Double
  | .finite s m e =>
    let (a, b) := fraction s m e
    ofQuotient s (a.natAbs * n) b
  | d => d

/-- The number with the other sign. -/
def neg : Double → Double
  | .finite s m e => .finite (!s) m e
  | .infinite s => .infinite (!s)
  | .notNumber => .notNumber

/-- Whether a number is zero, of either sign. -/
def isZero : Double → Bool
  | .finite _ m _ => m == 0
  | _ => false

/-- The whole number that a number equals, if there is one. -/
def toInt? : Double → Option Int
  | .finite s m e =>
    let (a, b) := fraction s m e
    if a % b = 0 then some (a / b) else none
  | _ => none

/-- Equality of numbers: both zeros are equal, and what is not a number equals nothing. -/
def same : Double → Double → Bool
  | .finite s m e, .finite s' m' e' => (m == 0 && m' == 0) || (s == s' && m == m' && e == e')
  | .infinite s, .infinite s' => s == s'
  | _, _ => false

end Double

end AgendaLinks
