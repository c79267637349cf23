/-!
Sets of characters given by the ranges of their code points. A table is written as numbers in base
36: for each range the distance from the end of the one before it, and its length less one.
-/

namespace AgendaLinks

namespace Text

private def digitValue (c : Char) : Nat :=
  if c.isDigit then c.toNat - '0'.toNat else c.toNat - 'a'.toNat + 10

/-- The numbers of a table, written in base 36 with blanks or line ends between them. -/
def readNumbers (table : String) : List Nat :=
  let (last, done) := table.toList.foldl
    (fun (current, done) c =>
      if c = ' ' || c = '\n' then (none, current.elim done (· :: done))
      else (some (current.getD 0 * 36 + digitValue c), done))
    ((none, []) : Option Nat × List Nat)
  (last.elim done (· :: done)).reverse

end Text

/-- Ranges of code points in increasing order, both ends included. -/
structure Spans where
  ranges : Array (Nat × Nat)

namespace Spans

private def rangesFrom : Nat → List Nat → List (Nat × Nat)
  | start, gap :: extra :: rest =>
    (start + gap, start + gap + extra) :: rangesFrom (start + gap + extra + 1) rest
  | _, _ => []

/-- The set that a table of gaps and lengths describes. -/
def ofTable (table : String) : Spans :=
  ⟨(rangesFrom 0 (Text.readNumbers table)).toArray⟩

private def search (ranges : Array (Nat × Nat)) (code low high : Nat) : Bool :=
  if _ : low < high then
    let middle := (low + high) / 2
    match ranges[middle]? with
    | none => false
    | some (first, last) =>
      if code < first then search ranges code low middle
      else if last < code then search ranges code (middle + 1) high
      else true
  else false
termination_by high - low

/-- Whether a code point lies in one of the ranges. -/
def contains (spans : Spans) (code : Nat) : Bool :=
  search spans.ranges code 0 spans.ranges.size

end Spans

end AgendaLinks
