import AgendaLinks.Number.Double
import AgendaLinks.Time.Stamp

/-!
The values of a configuration document. A mapping keeps its entries in the order of the document;
of two entries with the same key the first gives the place and the last the value.
-/

namespace AgendaLinks

/-- A value of a document. -/
inductive Value where
  | null
  | bool (b : Bool)
  | int (i : Int)
  | float (d : Double)
  | text (t : Text)
  | bytes (b : List UInt8)
  | date (d : Date)
  | moment (date : Date) (clock : Clock) (offset : Option UtcOffset)
  | list (items : List Value)
  | pair (first second : Value)
  | mapping (entries : List (Value × Value))
  | set (items : List Value)
  deriving Repr, Inhabited

namespace Value

/-- A number of a value, if it is one; the two truth values are numbers too. -/
private inductive Numeral where
  | whole (i : Int)
  | broken (d : Double)

private def numeral? : Value → Option Numeral
  | bool b => some (.whole (if b then 1 else 0))
  | int i => some (.whole i)
  | float d => some (d.toInt?.elim (.broken d) .whole)
  | _ => none

private def sameNumeral : Numeral → Numeral → Bool
  | .whole i, .whole j => i == j
  | .broken d, .broken e => d.same e
  | _, _ => false

/-- Two local times are the same by their parts, two times with offsets by their instants. -/
private def sameMoment (d : Date) (c : Clock) (d' : Date) (c' : Clock) :
    Option UtcOffset → Option UtcOffset → Bool
  | none, none => d == d' && c == c'
  | some o, some o' => Stamp.instant ⟨d, c, o⟩ == Stamp.instant ⟨d', c', o'⟩
  | _, _ => false

/-- Whether two values are one key of a mapping. Values that cannot be keys are never the same. -/
def sameKey : Value → Value → Bool
  | null, null => true
  | text t, text t' => t == t'
  | bytes b, bytes b' => b == b'
  | date d, date d' => d == d'
  | moment d c o, moment d' c' o' => sameMoment d c d' c' o o'
  | v, w =>
    match numeral? v, numeral? w with
    | some n, some m => sameNumeral n m
    | _, _ => false

/-- Entries with one more entry: at the place of an entry with the same key, or at the end. -/
def putEntry (key value : Value) : List (Value × Value) → List (Value × Value)
  | [] => [(key, value)]
  | (k, v) :: rest =>
    if sameKey k key then (k, value) :: rest else (k, v) :: putEntry key value rest

/-- The mapping of entries of which some may have the same key. -/
def ofEntries (entries : List (Value × Value)) : Value :=
  .mapping (entries.foldl (fun done (k, v) => putEntry k v done) [])

/-- The value of a text key among entries. -/
def lookup? (key : Text) : List (Value × Value) → Option Value
  | [] => none
  | (.text k, v) :: rest => if k = key then some v else lookup? key rest
  | _ :: rest => lookup? key rest

/-- The value of a text key among entries; a key that is missing has the value null. -/
def lookup (key : Text) (entries : List (Value × Value)) : Value :=
  (lookup? key entries).getD .null

/-- Values that count as absent: null, false, zero, and whatever is empty. -/
def isEmpty : Value → Bool
  | null => true
  | bool b => !b
  | int i => i == 0
  | float d => d.isZero
  | text t => t.isEmpty
  | bytes b => b.isEmpty
  | list items => items.isEmpty
  | mapping entries => entries.isEmpty
  | set items => items.isEmpty
  | date _ | moment .. | pair .. => false

end Value

end AgendaLinks
