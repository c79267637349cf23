import AgendaLinks.Yaml.Node
import AgendaLinks.Yaml.Scalar

/-!
The value of a document. Collections are filled from the outermost to the innermost, so of several
faults that count which lies least deep is met, and of those the first.
-/

namespace AgendaLinks.Yaml

/-- A value, or a fault with the depth at which it is met. -/
private abbrev Outcome (α : Type) := Except (Nat × Fault) α

/-- Two outcomes, one after the other; of two faults the less deep one counts. -/
private def both {α β γ : Type} (f : α → β → γ) : Outcome α → Outcome β → Outcome γ
  | .ok a, .ok b => .ok (f a b)
  | .ok _, .error e => .error e
  | .error e, .ok _ => .error e
  | .error e, .error e' => .error (if e'.1 < e.1 then e' else e)

private def malformedAt {α : Type} (depth : Nat) : Outcome α := .error (depth, .malformed)

mutual

/-- The text of a scalar, or of the one that a mapping stands for. -/
private def scalarText? : Node → Option Text
  | .scalar _ t => some t
  | .list .. => none
  | .mapping _ own _ _ => standIn? own

private def standIn? : List (Node × Node) → Option Text
  | [] => none
  | (k, v) :: rest => if k.tag = .value then scalarText? v else standIn? rest

end

mutual

/-- The value of a node at a depth. -/
private def valueAt (depth : Nat) : Node → Outcome Value
  | .scalar tag t =>
    if tag.isCollection then malformedAt (depth + 1)
    else (scalarValue tag t).mapError fun fault => (depth, fault)
  | .list tag items =>
    match tag with
    | .list => .list <$> valuesAt (depth + 1) items
    | .orderedMap | .pairs => .list <$> pairsAt (depth + 1) items
    | tag => malformedAt (if tag.isCollection then depth + 1 else depth)
  | .mapping tag own sound all =>
    match tag with
    | .mapping =>
      if sound then Value.ofEntries <$> entriesAt (depth + 1) all else malformedAt (depth + 1)
    | .set =>
      if sound then keySet <$> entriesAt (depth + 1) all else malformedAt (depth + 1)
    | tag =>
      if tag.isCollection then malformedAt (depth + 1)
      else match standIn? own with
        | some t => (scalarValue tag t).mapError fun fault => (depth, fault)
        | none => malformedAt depth
where
  /-- The set of the keys of entries. -/
  keySet (entries : List (Value × Value)) : Value :=
    match Value.ofEntries entries with
    | .mapping entries => .set (entries.map (·.1))
    | v => v

private def valuesAt (depth : Nat) : List Node → Outcome (List Value)
  | [] => .ok []
  | n :: rest => both (· :: ·) (valueAt depth n) (valuesAt depth rest)

/-- The entries of a mapping; a collection is no key. -/
private def entriesAt (depth : Nat) : List (Node × Node) → Outcome (List (Value × Value))
  | [] => .ok []
  | (k, v) :: rest =>
    let key := if k.tag.isCollection then malformedAt depth else valueAt depth k
    both (· :: ·) (both Prod.mk key (valueAt depth v)) (entriesAt depth rest)

/-- The items of a list of mappings with one entry each. -/
private def pairsAt (depth : Nat) : List Node → Outcome (List Value)
  | [] => .ok []
  | .mapping _ [(k, v)] _ _ :: rest =>
    both (· :: ·) (both Value.pair (valueAt depth k) (valueAt depth v)) (pairsAt depth rest)
  | _ :: _ => malformedAt depth

end

/-- The value of a text; the value of an empty document is null. -/
def read (t : Text) : Except Fault Value := do
  match ← Node.ofTokens? (.ofText (Text.unifyNewlines t)) with
  | none => return .null
  | some n => (valueAt 0 n).mapError (·.2)

end AgendaLinks.Yaml
