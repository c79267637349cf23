import AgendaLinks.Number.Double

/-!
The shortest decimal text of a number: the fewest digits that read back as the same number, and of
those the nearest to it. `Double.text` writes them positionally below `10 ^ 16` and down to
`10 ^ -4`, and with an exponent of at least two digits elsewhere.
-/

namespace AgendaLinks.Double

/-- The reals that round to a number, all multiplied by `4 * scale`, as whole numbers. -/
private structure Neighbourhood where
  low : Nat
  value : Nat
  high : Nat
  closed : Bool
  /-- The unit in which `low`, `value` and `high` are given. -/
  unit : Nat

private def neighbourhood (mantissa : Nat) (exponent : Int) : Neighbourhood :=
  let up := 2 ^ exponent.toNat
  let below := if mantissa = 2 ^ 52 ∧ -1074 < exponent then 1 else 2
  { low := (4 * mantissa - below) * up
    value := 4 * mantissa * up
    high := (4 * mantissa + 2) * up
    closed := mantissa % 2 == 0
    unit := 4 * 2 ^ (-exponent).toNat }

/-- Whether `digits * 10 ^ power` reads back as the number. -/
private def readsBack (n : Neighbourhood) (digits : Nat) (power : Int) : Bool :=
  let point := if 0 ≤ power then digits * 10 ^ power.toNat * n.unit else digits * n.unit
  let scale := if 0 ≤ power then 1 else 10 ^ (-power).toNat
  if n.closed then n.low * scale ≤ point && point ≤ n.high * scale
  else n.low * scale < point && point < n.high * scale

/-- The distance of `digits * 10 ^ power` from the number, times a factor that depends on `power`
alone. -/
private def distance (n : Neighbourhood) (digits : Nat) (power : Int) : Nat :=
  let point := if 0 ≤ power then digits * 10 ^ power.toNat * n.unit else digits * n.unit
  let centre := n.value * (if 0 ≤ power then 1 else 10 ^ (-power).toNat)
  (point - centre) + (centre - point)

/-- The multiple of `10 ^ power` below the number or equal to it. -/
private def floorAt (n : Neighbourhood) (power : Int) : Nat :=
  if 0 ≤ power then n.value / (n.unit * 10 ^ power.toNat)
  else n.value * 10 ^ (-power).toNat / n.unit

/-- The point of the grid of step `10 ^ power` that reads back and is nearest to the number. -/
private def onGrid? (n : Neighbourhood) (power : Int) : Option Nat :=
  let down := floorAt n power
  match readsBack n down power && down != 0, readsBack n (down + 1) power with
  | true, true =>
    let below := distance n down power
    let above := distance n (down + 1) power
    some (if below < above || (below == above && down % 2 == 0) then down else down + 1)
  | true, false => some down
  | false, true => some (down + 1)
  | false, false => none

/-- The first grid with a point that reads back, from coarse to fine. -/
private def firstGrid (n : Neighbourhood) : Nat → Int → Option (Nat × Int)
  | 0, _ => none
  | steps + 1, power =>
    match onGrid? n power with
    | some digits => some (digits, power)
    | none => firstGrid n steps (power - 1)

/-- The largest `k` at which `10 ^ k` is at most the number, or one less. -/
private def magnitude (n : Neighbourhood) : Int :=
  if n.unit ≤ n.value then ((Nat.toDigits 10 (n.value / n.unit)).length : Int) - 1
  else -((Nat.toDigits 10 (n.unit / n.value)).length : Int)

private def withoutTrailingZeros (digits : Text) : Text :=
  (digits.reverse.dropWhile (· = '0')).reverse

/-- The shortest digits of a positive number and the place of the point: the number is nearest to
`0.d₁d₂… * 10 ^ place`. -/
def shortest (mantissa : Nat) (exponent : Int) : Text × Int :=
  let n := neighbourhood mantissa exponent
  match firstGrid n 20 (magnitude n + 1) with
  | some (digits, power) =>
    let all := Text.ofNat digits
    (withoutTrailingZeros all, power + all.length)
  | none => (['0'], 1)

private def positional (digits : Text) (place : Int) : Text :=
  let width : Int := digits.length
  if place ≤ 0 then '0' :: '.' :: List.replicate (-place).toNat '0' ++ digits
  else if width ≤ place then digits ++ List.replicate (place - width).toNat '0' ++ ['.', '0']
  else digits.take place.toNat ++ '.' :: digits.drop place.toNat

private def scientific (digits : Text) (place : Int) : Text :=
  let power := place - 1
  let mantissa := match digits with
    | [d] => [d]
    | d :: ds => d :: '.' :: ds
    | [] => []
  mantissa ++ 'e' :: (if power < 0 then '-' else '+') :: Text.padded 2 power.natAbs

/-- The text of a number. -/
def text : Double → Text
  | .notNumber => "nan".toList
  | .infinite negative => (if negative then "-inf" else "inf").toList
  | .finite negative mantissa exponent =>
    let size :=
      if mantissa = 0 then "0.0".toList
      else
        let (digits, place) := shortest mantissa exponent
        if -4 < place ∧ place ≤ 16 then positional digits place else scientific digits place
    if negative then '-' :: size else size

end AgendaLinks.Double
