import AgendaLinks.Regexp.Matcher

/-!
Patterns for texts: any text, one text, or the texts in which a regular expression matches somewhere.
-/

namespace AgendaLinks

/-- A pattern for texts. -/
inductive Pattern where
  | any
  | literal (text : Text)
  | regexp (regexp : Regexp)

/-- Whether a text has a pattern. -/
def Pattern.accepts : Pattern → Text → Bool
  | any, _ => true
  | literal text, t => t == text
  | regexp r, t => r.occursIn t

end AgendaLinks
