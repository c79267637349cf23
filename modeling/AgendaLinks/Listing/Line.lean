import AgendaLinks.Text.Casing
import AgendaLinks.Text.Classes

/-!
The kinds of lines in a listing. A line with a bullet begins an entry; indented lines below it give
its properties, dates, and further lines of a property.
-/

namespace AgendaLinks.Listing

open Text

/-- What a line that begins an entry starts with. -/
def bullet : Text := "• ".toList

/-- A line without the line end after it. -/
def chomp (line : Text) : Text :=
  (line.reverse.dropWhile fun c => c = '\r' || c = '\n').reverse

/-- The text after the bullet of a line that begins an entry. -/
def afterBullet? (line : Text) : Option Text := after? bullet line

/-- Whether a line begins an entry. -/
def isBullet (line : Text) : Bool := (afterBullet? line).isSome

/-- Lines that hold nothing but blanks. -/
def isBlankLine (line : Text) : Bool := line.all isBlank

/-- Further lines of a property: at least five spaces, and no other blank right after them. -/
def isContinuation (line : Text) : Bool :=
  match line.span (· = ' ') with
  | (spaces, c :: _) => 5 ≤ spaces.length && !isBlank c
  | (_, []) => false

/-- The indentation of the properties of an event. -/
def propertyIndent : Nat := 4

/-- The name and the value of a property: a word after an indentation, a colon, at most one space that
is passed over, and the rest of the line. -/
def property? (indent : Nat) (line : Text) : Option (Text × Text) := do
  let rest ← after? (List.replicate indent ' ') line
  let (name, rest) := rest.span isWord
  guard (name ≠ [])
  let value ← after? [':'] rest
  guard ('\n' ∉ value)
  return (name, (after? [' '] value).getD value)

/-- Whether a text starts with a date of eight digits and two hyphens. -/
def startsWithDate (t : Text) : Bool :=
  (t.take 4).length == 4 && (t.take 4).all isDecimal && t[4]? == some '-' &&
    ((t.drop 5).take 2).length == 2 && ((t.drop 5).take 2).all isDecimal && t[7]? == some '-' &&
    ((t.drop 8).take 2).length == 2 && ((t.drop 8).take 2).all isDecimal

/-- Lines with the dates of an event. -/
def isDateLine (line : Text) : Bool :=
  match after? (List.replicate propertyIndent ' ') line with
  | some rest => startsWithDate rest
  | none => false

/-- A further line of a property without the indentation below the value: so many spaces are taken
away at most, and nothing but spaces. -/
def unindent (width : Nat) (line : Text) : Text :=
  let (spaces, rest) := line.span (· = ' ')
  List.replicate (spaces.length - width) ' ' ++ rest

end AgendaLinks.Listing
