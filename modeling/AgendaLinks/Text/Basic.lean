/-!
Texts are lists of characters, so that every rule about them is a recursion on a list. This module
holds the cuts and joins that the rest of the library is written with.
-/

namespace AgendaLinks

/-- Powers of numbers are the same in every module, whatever else it imports. -/
@[default_instance high]
instance (priority := high) powOfNat {α : Type} [NatPow α] : Pow α Nat := instPowNat

/-- A text is the list of its characters. -/
abbrev Text := List Char

namespace Text

/-- A question about every character of a text goes through the text. -/
instance (priority := high) decidableForallMem (p : Char → Prop) [DecidablePred p] (t : Text) :
    Decidable (∀ c ∈ t, p c) :=
  List.decidableBAll p t

/-- What is left of a text after a given start, if it starts so. -/
def after? : Text → Text → Option Text
  | [], t => some t
  | _ :: _, [] => none
  | p :: ps, c :: cs => if p = c then after? ps cs else none

/-- Whether a text starts with another. -/
def startsWith (t start : Text) : Bool := start.isPrefixOf t

/-- Whether a text ends with another. -/
def endsWith (t ending : Text) : Bool := ending.isSuffixOf t

/-- The text up to the first occurrence of a character, and what follows it when it occurs. -/
def cut (d : Char) : Text → Text × Option Text
  | [] => ([], none)
  | c :: cs => if c = d then ([], some cs) else
      let (left, right) := cut d cs
      (c :: left, right)

/-- The text up to the last occurrence of a character, and what follows it when it occurs. -/
def cutLast (d : Char) : Text → Option (Text × Text)
  | [] => none
  | c :: cs =>
    match cutLast d cs with
    | some (left, right) => some (c :: left, right)
    | none => if c = d then some ([], cs) else none

/-- The pieces of a text between the occurrences of a character. -/
def pieces (d : Char) : Text → List Text
  | [] => [[]]
  | c :: cs =>
    if c = d then [] :: pieces d cs
    else match pieces d cs with
      | [] => [[c]]
      | p :: ps => (c :: p) :: ps

/-- Texts one after the other with a separator between them. -/
def joinWith (sep : Text) : List Text → Text
  | [] => []
  | [t] => t
  | t :: u :: ts => t ++ sep ++ joinWith sep (u :: ts)

/-- The text around the first occurrence of another text. -/
def cutAt (sub : Text) : Text → Option (Text × Text)
  | [] => if sub.isEmpty then some ([], []) else none
  | c :: cs =>
    match after? sub (c :: cs) with
    | some rest => some ([], rest)
    | none => (cutAt sub cs).map fun (left, right) => (c :: left, right)

/-- Whether a text occurs inside another. -/
def occursIn (sub t : Text) : Bool := (cutAt sub t).isSome

theorem length_after? {start t rest : Text} (h : after? start t = some rest) :
    t.length = start.length + rest.length := by
  fun_induction after? start t with
  | case1 t => simp_all
  | case2 => simp at h
  | case3 ps c cs ih => simp [ih h]; omega
  | case4 => simp at h

/-- The rest after a start is what the start has to be put before. -/
theorem after?_eq_some_iff {start t rest : Text} :
    after? start t = some rest ↔ t = start ++ rest := by
  fun_induction after? start t with
  | case1 t => simp [eq_comm]
  | case2 => simp
  | case3 ps c cs ih => simp [ih]
  | case4 p ps c cs hne => simp [Ne.symm hne]

theorem length_cutAt {sub t left right : Text} (h : cutAt sub t = some (left, right)) :
    t.length = left.length + sub.length + right.length := by
  induction t generalizing left with
  | nil => cases sub <;> simp_all [cutAt]
  | cons c cs ih =>
    simp only [cutAt] at h
    split at h
    · rename_i rest hr
      simp only [Option.some.injEq, Prod.mk.injEq] at h
      obtain ⟨rfl, rfl⟩ := h
      simpa using length_after? hr
    · obtain ⟨⟨l, r⟩, hl, he⟩ := Option.map_eq_some_iff.1 h
      simp only [Prod.mk.injEq] at he
      obtain ⟨rfl, rfl⟩ := he
      simp [ih hl]
      omega

/-- Every occurrence of a non-empty text, from left to right and without overlaps, replaced. -/
def replace (sub new t : Text) : Text :=
  if sub.isEmpty then t else
  match _h : cutAt sub t with
  | none => t
  | some (left, right) => left ++ new ++ replace sub new right
termination_by t.length
decreasing_by
  have := length_cutAt _h
  have : sub.length ≠ 0 := by cases sub <;> simp_all
  omega

/-- The number of occurrences of a non-empty text, from left to right and without overlaps. -/
def countOf (sub t : Text) : Nat :=
  if sub.isEmpty then 0 else
  match _h : cutAt sub t with
  | none => 0
  | some (_, right) => 1 + countOf sub right
termination_by t.length
decreasing_by
  have := length_cutAt _h
  have : sub.length ≠ 0 := by cases sub <;> simp_all
  omega

/-- The first occurrence of a text replaced. -/
def replaceFirst (sub new t : Text) : Text :=
  match cutAt sub t with
  | none => t
  | some (left, right) => left ++ new ++ right

/-- The decimal digits of a number. -/
def ofNat (n : Nat) : Text := Nat.toDigits 10 n

/-- The decimal digits of a number with a minus sign before them when it is negative. -/
def ofInt (i : Int) : Text := if i < 0 then '-' :: ofNat i.natAbs else ofNat i.natAbs

/-- A number in at least so many digits, with zeros before it. -/
def padded (width n : Nat) : Text :=
  let digits := ofNat n
  List.replicate (width - digits.length) '0' ++ digits

end Text

end AgendaLinks
