import AgendaLinks.Text.Basic

/-!
Texts as single words of a shell command. A word of plain characters stands as it is; any other one
stands between apostrophes, and an apostrophe in it between quotation marks of its own.
-/

namespace AgendaLinks.Shell

/-- Characters without a meaning for a shell. -/
def isPlainChar (c : Char) : Bool := c.isAlphanum || "_@%+=:,./-".toList.contains c

/-- A text as one word. -/
def quoted (t : Text) : Text :=
  if t ≠ [] ∧ t.all isPlainChar then t
  else '\'' :: Text.replace ['\''] "'\"'\"'".toList t ++ ['\'']

end AgendaLinks.Shell
