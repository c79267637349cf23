import AgendaLinks.Text.Basic

/-!
Labels of domain names in ASCII. The plain characters come first; the others follow in the order of
their code points, each as the number of steps that a decoder counts until it has to put the character
in. The numbers have digits to the base 36 with a threshold for every place.
-/

namespace AgendaLinks.Domain

/-- The threshold of the place `k`, between 1 and 26. -/
private def threshold (bias k : Nat) : Nat := max 1 (min 26 (k - bias))

private def digit (n : Nat) : Char := Char.ofNat (if n < 26 then 97 + n else 22 + n)

/-- The digits of a number from the place `k` on. -/
private def numeral (bias k q : Nat) : Text :=
  let t := threshold bias k
  if q < t then [digit q]
  else digit (t + (q - t) % (36 - t)) :: numeral bias (k + 36) ((q - t) / (36 - t))
termination_by q
decreasing_by
  have ht : 1 ≤ threshold bias k ∧ threshold bias k ≤ 26 := by unfold threshold; omega
  have : (q - threshold bias k) / (36 - threshold bias k) ≤ q - threshold bias k :=
    Nat.div_le_self ..
  omega

/-- How often a number has to be divided until it is small, and what is left. -/
private def divisions (k delta : Nat) : Nat × Nat :=
  if 455 < delta then divisions (k + 36) (delta / 35) else (k, delta)
termination_by delta
decreasing_by exact Nat.div_lt_self (by omega) (by omega)

/-- The bias after a number, from the count of characters put in so far. -/
private def nextBias (delta count : Nat) (first : Bool) : Nat :=
  let delta := if first then delta / 700 else delta / 2
  let (k, delta) := divisions 0 (delta + delta / count)
  k + 36 * delta / (delta + 38)

private structure Encoder where
  output : Text
  /-- The code point from which on characters are still to be put in. -/
  next : Nat := 128
  delta : Nat := 0
  bias : Nat := 72
  /-- The number of characters put in. -/
  handled : Nat
  first : Bool := true

/-- What a character of the label does when the characters with a code point are put in. -/
private def Encoder.step (point : Nat) (e : Encoder) (c : Char) : Encoder :=
  if c.toNat < point then { e with delta := e.delta + 1 }
  else if c.toNat = point then
    { e with
      output := e.output ++ numeral e.bias 36 e.delta
      bias := nextBias e.delta (e.handled + 1) e.first
      delta := 0
      handled := e.handled + 1
      first := false }
  else e

private def Encoder.round (label : Text) (e : Encoder) (point : Nat) : Encoder :=
  let e := { e with delta := e.delta + (point - e.next) * (e.handled + 1) }
  let e := label.foldl (Encoder.step point) e
  { e with delta := e.delta + 1, next := point + 1 }

/-- A label in ASCII, without the sign that marks such labels. -/
def punycode (label : Text) : Text :=
  let plain := label.filter fun c => c.toNat < 128
  let points := ((label.map Char.toNat).filter (128 ≤ ·)).mergeSort.eraseReps
  let output := if plain.isEmpty then [] else plain ++ ['-']
  (points.foldl (Encoder.round label) { output, handled := plain.length }).output

end AgendaLinks.Domain
