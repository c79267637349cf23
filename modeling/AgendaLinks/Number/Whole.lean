import AgendaLinks.Text.Classes

/-!
Reading whole numbers: blanks around them, a sign, digits of any script, and single low lines between
digits are accepted; more than 4300 digits are not.
-/

namespace AgendaLinks

/-- The digits of a text in which single low lines may stand between digits. -/
private def spacedDigits? : Text → Option (List Nat)
  | [] => none
  | [c] => (Text.digitValue? c).map ([·])
  | c :: '_' :: cs => return (← Text.digitValue? c) :: (← spacedDigits? cs)
  | c :: cs => return (← Text.digitValue? c) :: (← spacedDigits? cs)

/-- The number that digits write. -/
def ofDigits (base : Nat) (digits : List Nat) : Nat := digits.foldl (fun n d => n * base + d) 0

/-- The whole number that a text writes. -/
def Text.wholeNumber? (t : Text) : Option Int := do
  let t := Text.trim t
  let (negative, t) := match t with
    | '+' :: t => (false, t)
    | '-' :: t => (true, t)
    | t => (false, t)
  let digits ← spacedDigits? t
  guard (digits.length ≤ 4300)
  let size : Int := ofDigits 10 digits
  return if negative then -size else size

end AgendaLinks
