import AgendaLinks.Markup.Names
import AgendaLinks.Text.Quoted

/-!
References to characters in markup, by number or by name, which begin with an ampersand. Numbers that
name no character stand for the replacement character, and those of an old character set for its
characters. In attributes a name is read as far as it is known; in text it goes up to the next
character that is no letter or digit.
-/

namespace AgendaLinks.Markup

/-- Why markup is refused. -/
inductive Fault where
  /-- A section starts with something that is no name. -/
  | sectionName (start : Text)
  /-- A section is of no known kind. -/
  | sectionKind (kind : Text)
  /-- The number of a character is written with more digits than are read. -/
  | tooManyDigits (digits : Nat)
  deriving DecidableEq, Repr

namespace Fault

private def rejected (cause : String) : String :=
  "The markup you provided was rejected by the parser. Trying a different parser or a different " ++
    "encoding may help.\n\nOriginal error(s) from parser:\n AssertionError: " ++ cause

/-- Whether a fault is one of the markup itself. -/
def isRejection : Fault → Bool
  | tooManyDigits _ => false
  | _ => true

/-- The message about a fault. -/
def message : Fault → String
  | sectionName start => rejected s!"expected name token at {String.ofList (Text.quoted start)}"
  | sectionKind kind =>
    rejected s!"unknown status keyword {String.ofList (Text.quoted kind)} in marked section"
  | tooManyDigits n =>
    s!"Exceeds the limit (4300 digits) for integer string conversion: value has {n} digits; " ++
      "use sys.set_int_max_str_digits() to increase the limit"

end Fault

/-- The characters of an old set that are meant by the numbers from 128 on. -/
private def oldCharacters : List Nat :=
  [0x20ac, 0x81, 0x201a, 0x192, 0x201e, 0x2026, 0x2020, 0x2021, 0x2c6, 0x2030, 0x160, 0x2039, 0x152,
    0x8d, 0x17d, 0x8f, 0x90, 0x2018, 0x2019, 0x201c, 0x201d, 0x2022, 0x2013, 0x2014, 0x2dc, 0x2122,
    0x161, 0x203a, 0x153, 0x9d, 0x17e, 0x178]

/-- Numbers of controls and of code points that never become characters. -/
private def isNoCharacter (n : Nat) : Bool :=
  (1 ≤ n && n ≤ 8) || n = 11 || (14 ≤ n && n ≤ 31) || n = 127 || (0xfdd0 ≤ n && n ≤ 0xfdef) ||
    n % 0x10000 = 0xfffe || n % 0x10000 = 0xffff

/-- The character with a number. -/
private def numbered (n : Nat) : Char :=
  if n = 0 ∨ 0x10ffff < n ∨ (0xd800 ≤ n ∧ n ≤ 0xdfff) then '\uFFFD'
  else if 128 ≤ n ∧ n < 160 then Char.ofNat (oldCharacters.getD (n - 128) n)
  else Char.ofNat n

/-- The text of the character with a number in an attribute. -/
private def numberedInAttribute (n : Nat) : Text := if isNoCharacter n then [] else [numbered n]

private def isHex (c : Char) : Bool :=
  c.isDigit || ('a' ≤ c && c ≤ 'f') || ('A' ≤ c && c ≤ 'F')

private def hexValue (c : Char) : Nat :=
  if c.isDigit then c.toNat - 48 else c.toLower.toNat - 87

/-- The number after a number sign, and how many characters it takes, if there is one. -/
private def number? (t : Text) : Except Fault (Option (Nat × Nat)) :=
  match t with
  | [] => .ok none
  | c :: rest =>
    if c = 'x' || c = 'X' then
      let digits := rest.takeWhile isHex
      .ok (if digits.isEmpty then none
        else some (digits.foldl (fun n d => n * 16 + hexValue d) 0, digits.length + 1))
    else
      let digits := t.takeWhile Char.isDigit
      if digits.isEmpty then .ok none
      else if 4300 < digits.length then .error (.tooManyDigits digits.length)
      else .ok (some (digits.foldl (fun n d => n * 10 + (d.toNat - 48)) 0, digits.length))

private def endsName (c : Char) : Bool := "\t\n\x0c <&#;".toList.contains c

/-- The longest old name at the start of a text, of at least two characters and at most so many. -/
private def oldName? (t : Text) : Nat → Option (Text × Nat)
  | 0 | 1 => none
  | n + 1 =>
    match named? (t.take (n + 1)) with
    | some e => if e.old then some (e.text, n + 1) else oldName? t n
    | none => oldName? t n

/-- What a reference in an attribute stands for, given the text after its ampersand, and how many
characters it takes. -/
private def inAttribute? (t : Text) : Except Fault (Option (Text × Nat)) :=
  match t with
  | '#' :: rest => do
    match ← number? rest with
    | none => return none
    | some (n, width) =>
      let closed := (rest.drop width).head? = some ';'
      return some (numberedInAttribute n, 1 + width + if closed then 1 else 0)
  | t =>
    let name := (t.take 32).takeWhile (!endsName ·)
    let closed := (t.drop name.length).head? = some ';'
    match named? name with
    | some e => if closed then .ok (some (e.text, name.length + 1)) else .ok (oldName? name name.length)
    | none => .ok (oldName? name name.length)

/-- The value of an attribute with its references replaced. -/
def attributeValue : Text → Except Fault Text
  | [] => .ok []
  | c :: t =>
    if c = '&' then
      match inAttribute? t with
      | .error fault => .error fault
      | .ok none => ('&' :: ·) <$> attributeValue t
      | .ok (some (s, width)) => (s ++ ·) <$> attributeValue (t.drop width)
    else (c :: ·) <$> attributeValue t
termination_by t => t.length
decreasing_by
  all_goals simp only [List.length_drop, List.length_cons]
  all_goals omega

/-- What an ampersand in text begins. -/
inductive Reference where
  /-- A text, in the place of so many characters after the ampersand. -/
  | text (text : Text) (width : Nat)
  /-- Nothing that is a number, though a number sign follows. -/
  | noNumber
  /-- A name that goes on to the end of the markup. -/
  | unfinished
  /-- Nothing. -/
  | nothing

private def isNameChar (c : Char) : Bool := c.isAlphanum || c = '-' || c = '.'

/-- The name at the start of a text; of one that goes on to the end only the part before its last mark
is a name. -/
private def nameThen? (t : Text) : Option Text :=
  let name := t.takeWhile isNameChar
  if name.length < t.length then some name
  else match name.reverse.dropWhile Char.isAlphanum with
    | _ :: before => if before.isEmpty then none else some before.reverse
    | [] => none

/-- The reference in text that an ampersand begins, given the text after it. -/
def reference (t : Text) : Except Fault Reference :=
  match t with
  | [] => .ok .unfinished
  | '#' :: rest => do
    match ← number? rest with
    | none => return .noNumber
    | some (n, width) =>
      match rest.drop width with
      | [] => return .noNumber
      | c :: _ =>
        if isHex c then return .noNumber
        return .text [numbered n] (1 + width + if c = ';' then 1 else 0)
  | c :: _ =>
    if !c.isAlpha then .ok .nothing
    else match nameThen? t with
      | none => .ok .unfinished
      | some name =>
        let text := match named? name with
          | some e => e.text
          | none => '&' :: name
        let closed := (t.drop name.length).head? = some ';'
        .ok (.text text (name.length + if closed then 1 else 0))

end AgendaLinks.Markup
