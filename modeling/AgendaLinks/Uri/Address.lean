import AgendaLinks.Text.Basic

/-!
Numeric addresses: four numbers below 256 with points between them, or eight groups of at most four
hexadecimal digits with colons between them. Two colons next to each other stand for one or more
groups of zeros, the last two groups may be written as four numbers, and the name of a zone may follow
a per cent sign.
-/

namespace AgendaLinks.Uri

open Text

private def isByte (t : Text) : Bool :=
  t ≠ [] && t.length ≤ 3 && t.all Char.isDigit && (t = ['0'] || t.head? ≠ some '0') &&
    t.foldl (fun n c => n * 10 + (c.toNat - 48)) 0 < 256

/-- Whether a text is an address of four numbers. -/
def isAddress4 (t : Text) : Bool :=
  let numbers := pieces '.' t
  numbers.length == 4 && numbers.all isByte

/-- A hexadecimal digit of either case. -/
def isHexDigit (c : Char) : Bool :=
  c.isDigit || ('a' ≤ c && c ≤ 'f') || ('A' ≤ c && c ≤ 'F')

private def isGroup (t : Text) : Bool := t ≠ [] && t.length ≤ 4 && t.all isHexDigit

/-- The number of groups that are written, if they are groups; an address of four numbers at the end
counts as two. -/
private def groupCount? (four : Text → Bool) : List Text → Option Nat
  | [] => some 0
  | [last] =>
    if last.contains '.' then if four last then some 2 else none
    else if isGroup last then some 1 else none
  | g :: gs => if isGroup g then (groupCount? four gs).map (· + 1) else none

private def groups (t : Text) : List Text := if t.isEmpty then [] else pieces ':' t

/-- Whether a text without a zone is an address of eight groups, with a test for the address of four
numbers at its end. -/
def isAddress6Without (four : Text → Bool) (t : Text) : Bool :=
  match cutAt [':', ':'] t with
  | some (left, right) =>
    let before := groups left
    match groupCount? four (groups right) with
    | some after => before.all isGroup && before.length + after ≤ 7
    | none => false
  | none => groupCount? four (groups t) == some 8

/-- Whether a text is an address of eight groups. -/
def isAddress6 (t : Text) : Bool :=
  match cut '%' t with
  | (address, none) => isAddress6Without isAddress4 address
  | (address, some zone) => zone ≠ [] && !zone.contains '%' && isAddress6Without isAddress4 address

end AgendaLinks.Uri
