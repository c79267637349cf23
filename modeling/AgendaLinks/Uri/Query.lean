import AgendaLinks.Text.Utf8
import AgendaLinks.Uri.Address

/-!
Queries of links: parameters with an equals sign between name and value and ampersands between them.
Names and values are written in bytes; letters, digits and four marks stand for themselves, a plus
sign for a space, and any byte can be written as a per cent sign with two hexadecimal digits.
-/

namespace AgendaLinks.Uri

open Text

/-- Characters that stand for themselves. -/
def isPlain (c : Char) : Bool :=
  c.isAlphanum || c = '_' || c = '.' || c = '-' || c = '~'

/-- A hexadecimal digit with its letters in capitals. -/
def hexDigit (n : Nat) : Char := Char.ofNat (if n < 10 then 48 + n else 55 + n)

/-- A byte as it is written in a query. -/
def encodeByte (b : UInt8) : Text :=
  let c := Char.ofNat b.toNat
  if isPlain c then [c]
  else if c = ' ' then ['+']
  else ['%', hexDigit (b.toNat / 16), hexDigit (b.toNat % 16)]

/-- A text as it is written in a query. -/
def encode (t : Text) : Text := (toUtf8 t).flatMap encodeByte

/-- Parameters as they are written in a query. -/
def writeQuery (parameters : List (Text × Text)) : Text :=
  joinWith ['&'] (parameters.map fun (name, value) => encode name ++ '=' :: encode value)

/-- The value of a hexadecimal digit. -/
def hexValue? (b : UInt8) : Option Nat :=
  let n := b.toNat
  if 48 ≤ n && n ≤ 57 then some (n - 48)
  else if 65 ≤ n && n ≤ 70 then some (n - 55)
  else if 97 ≤ n && n ≤ 102 then some (n - 87)
  else none

/-- Bytes with every per cent sign and its two digits replaced by the byte that they write. -/
def decodeBytes : List UInt8 → List UInt8
  | [] => []
  | 0x25 :: a :: b :: rest =>
    match hexValue? a, hexValue? b with
    | some high, some low => UInt8.ofNat (high * 16 + low) :: decodeBytes rest
    | _, _ => 0x25 :: decodeBytes (a :: b :: rest)
  | x :: rest => x :: decodeBytes rest

/-- The text that a part of a query stands for. -/
def decode (t : Text) : Text :=
  ofAnyUtf8 (decodeBytes (toUtf8 (t.map fun c => if c = '+' then ' ' else c)))

/-- The parameters of a query; one without an equals sign has an empty value, and nothing between two
ampersands is no parameter. -/
def readQuery (query : Text) : List (Text × Text) :=
  ((pieces '&' query).filter (· ≠ [])).map fun p =>
    let (name, value) := cut '=' p
    (decode name, decode (value.getD []))

end AgendaLinks.Uri
