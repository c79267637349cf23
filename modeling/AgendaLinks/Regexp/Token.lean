import AgendaLinks.Regexp.Fault

/-!
The tokens of a regular expression: a character by itself, or a backslash with the character after
it. A backslash at the end of the text has no such character.
-/

namespace AgendaLinks.Regexp

/-- A character or an escaped character. -/
inductive Sign where
  | plain (c : Char)
  | escaped (c : Char)
  | stray
  deriving DecidableEq, Repr

/-- A sign with its place in the text. -/
structure Token where
  sign : Sign
  place : Nat
  deriving DecidableEq, Repr

/-- The text of a sign. -/
def Sign.text : Sign → Text
  | plain c => [c]
  | escaped c => ['\\', c]
  | stray => ['\\']

/-- The tokens of a text that starts at a place. -/
def tokensFrom (place : Nat) : Text → List Token
  | [] => []
  | '\\' :: c :: t => ⟨.escaped c, place⟩ :: tokensFrom (place + 2) t
  | ['\\'] => [⟨.stray, place⟩]
  | c :: t => ⟨.plain c, place⟩ :: tokensFrom (place + 1) t

end AgendaLinks.Regexp
