import AgendaLinks.Text.Casing
import AgendaLinks.Text.Classes

/-!
What one place of a pattern accepts: a single character, a set, or any character. Two characters are
alike, when case is ignored, if their small letters are the same or belong to one family of letters
with the same capital.
-/

namespace AgendaLinks.Regexp

/-- How two characters are compared. -/
inductive CaseRule where
  /-- A character is like itself alone. -/
  | exact
  /-- The letters `A` to `Z` are like `a` to `z`. -/
  | ascii
  /-- Letters are alike by their small forms. -/
  | unicode
  deriving DecidableEq, Repr

/-- Named classes of characters. -/
inductive CharClass where
  | digit
  | space
  | word
  deriving DecidableEq, Repr

/-- A member of a set. -/
inductive Member where
  | code (n : Nat)
  | span (first last : Nat)
  | named (which : CharClass) (negated : Bool)
  deriving DecidableEq, Repr

/-- What one place of a pattern accepts. -/
inductive Symbol where
  /-- Any character; a line feed only if it is asked for. -/
  | any (lineFeed : Bool)
  /-- A character of a set, or one outside of it. -/
  | set (negated : Bool) (members : List Member)
  deriving DecidableEq, Repr

/-- Small letters whose capitals are the same. -/
private def families : List (List Nat) :=
  [[0x69, 0x131], [0x73, 0x17f], [0xb5, 0x3bc], [0x345, 0x3b9, 0x1fbe], [0x390, 0x1fd3],
    [0x3b0, 0x1fe3], [0x3b2, 0x3d0], [0x3b5, 0x3f5], [0x3b8, 0x3d1], [0x3ba, 0x3f0], [0x3c0, 0x3d6],
    [0x3c1, 0x3f1], [0x3c2, 0x3c3], [0x3c6, 0x3d5], [0x432, 0x1c80], [0x434, 0x1c81], [0x43e, 0x1c82],
    [0x441, 0x1c83], [0x442, 0x1c84, 0x1c85], [0x44a, 0x1c86], [0x463, 0x1c87], [0x1c88, 0xa64b],
    [0x1e61, 0x1e9b], [0xfb05, 0xfb06]]

/-- The code points of the characters that are alike a given one. -/
def alike (rule : CaseRule) (c : Char) : List Nat :=
  match rule with
  | .exact => [c.toNat]
  | .ascii =>
    if c.isLower then [c.toNat, c.toNat - 32]
    else if c.isUpper then [c.toNat, c.toNat + 32]
    else [c.toNat]
  | .unicode =>
    let small := (Text.smallChar c).toNat
    let family := (families.find? (·.contains small)).getD [small]
    c.toNat :: family.flatMap fun n => n :: Text.capitalsOf n ++
      (if 97 ≤ n ∧ n ≤ 122 then [n - 32] else [])

/-- Whether a character belongs to a named class; only ASCII characters do if it is so restricted. -/
def CharClass.contains (which : CharClass) (ascii : Bool) (c : Char) : Bool :=
  (!ascii || c.toNat < 128) &&
    match which with
    | .digit => Text.isDecimal c
    | .space => if ascii then c == ' ' || (9 ≤ c.toNat && c.toNat ≤ 13) else Text.isBlank c
    | .word => Text.isWord c

private def Member.contains (ascii : Bool) (c : Char) (codes : List Nat) : Member → Bool
  | .code n => codes.contains n
  | .span first last => codes.any fun n => first ≤ n && n ≤ last
  | .named which negated => which.contains ascii c != negated

/-- Whether a symbol accepts a character. -/
def Symbol.accepts (symbol : Symbol) (rule : CaseRule) (ascii : Bool) (c : Char) : Bool :=
  match symbol with
  | .any lineFeed => lineFeed || c != '\n'
  | .set negated members =>
    let codes := alike rule c
    members.any (Member.contains ascii c codes) != negated

end AgendaLinks.Regexp
