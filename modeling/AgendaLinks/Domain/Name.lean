import AgendaLinks.Domain.Label
import AgendaLinks.Text.Casing

/-!
Names of domains: labels with points between them, of which those in ASCII are taken as they are. In a
name that is adapted first, any of four points separates labels, and only the last one may be empty.
-/

namespace AgendaLinks.Domain

open Text

def isAscii (t : Text) : Bool := t.all fun c => c.toNat < 128

/-- The first label of a name that is neither in ASCII nor a label in small letters. -/
def badLabel? (name : Text) : Option Text :=
  (pieces '.' name).find? fun label => !isAscii label && !isLabel (lower label)

private def isPoint (c : Char) : Bool :=
  c = '.' || c.toNat = 0x3002 || c.toNat = 0xff0e || c.toNat = 0xff61

private def isPlainLabel (label : Text) : Bool :=
  label.length ≤ 63 && label.head? ≠ some '-' && label.getLast? ≠ some '-' &&
    label.all fun c => c.isAlphanum || c = '-'

/-- Whether a name has only labels after it has been adapted. Capitals are made small; other characters that
stand for a letter are not mapped to it. -/
def isAdaptable (name : Text) : Bool :=
  let labels := pieces '.' ((lower name).map fun c => if isPoint c then '.' else c)
  let labels := if labels.getLast? = some [] then labels.dropLast else labels
  labels ≠ [] && labels.all fun label =>
    label ≠ [] && if isAscii label then isPlainLabel label else isLabel label

end AgendaLinks.Domain
