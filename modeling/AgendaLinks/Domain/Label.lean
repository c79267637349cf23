import AgendaLinks.Domain.Classes
import AgendaLinks.Domain.Composed
import AgendaLinks.Domain.Punycode

/-!
Labels of domain names beyond ASCII. A label is in composed form, has hyphens only inside and not as
its third and fourth character, does not start with a mark, holds permitted characters, and is at most
63 characters long in ASCII. A label with letters written from right to left holds no letters of the
other direction.
-/

namespace AgendaLinks.Domain

/-- The direction in which a character is written. -/
inductive Direction where
  | left
  | right
  | european
  | arabic
  | mark
  | neutral
  deriving DecidableEq, Repr

private def isEuropeanDigit (n : Nat) : Bool := (48 ≤ n && n ≤ 57) || (0x6f0 ≤ n && n ≤ 0x6f9)

private def isArabicDigit (n : Nat) : Bool :=
  (0x660 ≤ n && n ≤ 0x669) || (0x10d30 ≤ n && n ≤ 0x10d39)

private def isNeutral (n : Nat) : Bool :=
  n = 45 || n = 0xb7 || n = 0x2b9 || n = 0x2ba || (0x2c6 ≤ n && n ≤ 0x2cf) || n = 0x2ec ||
    n = 0x375 || n = 0x200c || n = 0x200d || n = 0x2e2f || n = 0x30fb || n = 0xa67f ||
    (0xa717 ≤ n && n ≤ 0xa71f) || n = 0xa788

/-- The direction of a character that may stand in a label. -/
def direction (c : Char) : Direction :=
  let n := c.toNat
  if isEuropeanDigit n then .european
  else if isNeutral n then .neutral
  else if n < 128 then .left
  else if isArabicDigit n then .arabic
  else if Classes.rightward.contains n then .right
  else if Classes.directionless.contains n then .mark
  else .left

/-- Whether the directions of the characters of a label go together. -/
def isOneWay (label : Text) : Bool :=
  let ds := label.map direction
  if ds.any fun d => d = .right || d = .arabic then
    ds.head? = some .right && !ds.contains .left && !(ds.contains .european && ds.contains .arabic) &&
      ((ds.reverse.find? (· ≠ .mark)).any fun d => d = .right || d = .european || d = .arabic)
  else true

private def within (spans : Spans) (c : Option Char) : Bool := c.any fun c => spans.contains c.toNat

/-- Whether a joiner may stand between the reversed text before it and the text after it. -/
private def mayJoin (before after : Text) : Bool :=
  let far (t : Text) := (t.dropWhile fun c => Classes.joinsThrough.contains c.toNat).head?
  (within Classes.joinsNext (far before) || within Classes.joinsBoth (far before)) &&
    (within Classes.joinsFormer (far after) || within Classes.joinsBoth (far after))

private def followsVirama (before : Text) : Bool := before.head?.any fun c => markClass c = 9

/-- Whether a character may stand in a label, between the reversed text before it and the text after
it. -/
def isPlaced (before : Text) (c : Char) (after : Text) : Bool :=
  let others := before ++ after
  match c.toNat with
  | 0x200c => followsVirama before || mayJoin before after
  | 0x200d => followsVirama before
  | 0xb7 => before.head? = some 'l' && after.head? = some 'l'
  | 0x375 => within Classes.greek after.head?
  | 0x5f3 | 0x5f4 => within Classes.hebrew before.head?
  | 0x30fb => others.any fun d => d ≠ c && Classes.eastern.contains d.toNat
  | n =>
    if 0x660 ≤ n && n ≤ 0x669 then others.all fun d => !(0x6f0 ≤ d.toNat && d.toNat ≤ 0x6f9)
    else if 0x6f0 ≤ n && n ≤ 0x6f9 then others.all fun d => !(0x660 ≤ d.toNat && d.toNat ≤ 0x669)
    else Classes.permitted.contains n

private def allPlaced (before : Text) : Text → Bool
  | [] => true
  | c :: after => isPlaced before c after && allPlaced (c :: before) after

/-- Whether hyphens stand only where they may. -/
private def hyphensFit (label : Text) : Bool :=
  (label.drop 2).take 2 ≠ ['-', '-'] && label.head? ≠ some '-' && label.getLast? ≠ some '-'

/-- Whether a text of small letters is a label. -/
def isLabel (label : Text) : Bool :=
  label ≠ [] && hyphensFit label && !within Classes.marks label.head? && allPlaced [] label &&
    composed label = label && isOneWay label && (punycode label).length ≤ 59

end AgendaLinks.Domain
