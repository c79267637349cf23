import AgendaLinks.Text.Quoted

/-!
What can be wrong with the text of a regular expression, and the messages about it. A place is
counted in characters from the start; a text of several lines also has its line and column named.
-/

namespace AgendaLinks.Regexp

/-- A flaw of the text of a regular expression. -/
inductive Flaw where
  | strayEscape
  | badEscape (escape : Text)
  | incompleteEscape (escape : Text)
  | octalTooLarge (escape : Text)
  | missingName (what : String)
  | unterminatedName (terminator : Char)
  | missingBrace
  | unknownCharacterName (name : Text)
  | badGroupName (name : Text)
  | unknownGroupName (name : Text)
  | redefinedGroup (name : Text) (group former : Nat)
  | openGroup
  | groupInLookbehind
  | noSuchGroup (group : Nat)
  | groupZero
  | unterminatedSet
  | badSpan (first last : Text)
  | repeatOrder
  | nothingToRepeat
  | repeatTwice
  | endOfPattern
  | unknownExtension (extension : Text)
  | unterminatedComment
  | unterminatedGroup
  | tooManyBranches
  | unbalanced
  | lateOptions
  | localeOption
  | optionsClash
  | optionsCutShort
  | unknownOption
  | missingOption
  | missingColon
  | optionForWhole (on : Bool)
  | kindOff
  | onAndOff
  | lookbehindWidth
  | lookbehindTooLong
  | templateRepeat (greed : String)
  deriving DecidableEq, Repr

/-- Why a text is no regular expression. -/
inductive Fault where
  /-- The text has a flaw, in general at a place. -/
  | flawed (flaw : Flaw) (place : Option Nat)
  /-- A number of repetitions does not fit into 32 bits. -/
  | repeatTooLarge
  /-- A number is written with more digits than are read. -/
  | tooManyDigits (digits : Nat)
  /-- Two kinds of characters are asked for at once. -/
  | kindsClash
  deriving DecidableEq, Repr

private def q (t : Text) : String := String.ofList (Text.quoted t)

private def s (t : Text) : String := String.ofList t

/-- The message about a flaw, without its place. -/
def Flaw.message : Flaw → String
  | strayEscape => "bad escape (end of pattern)"
  | badEscape e => s!"bad escape {s e}"
  | incompleteEscape e => s!"incomplete escape {s e}"
  | octalTooLarge e => s!"octal escape value {s e} outside of range 0-0o377"
  | missingName what => s!"missing {what}"
  | unterminatedName c => s!"missing {c}, unterminated name"
  | missingBrace => "missing \x7b"
  | unknownCharacterName n => s!"undefined character name {q n}"
  | badGroupName n => s!"bad character in group name {q n}"
  | unknownGroupName n => s!"unknown group name {q n}"
  | redefinedGroup n g f => s!"redefinition of group name {q n} as group {g}; was group {f}"
  | openGroup => "cannot refer to an open group"
  | groupInLookbehind => "cannot refer to group defined in the same lookbehind subpattern"
  | noSuchGroup g => s!"invalid group reference {g}"
  | groupZero => "bad group number"
  | unterminatedSet => "unterminated character set"
  | badSpan a b => s!"bad character range {s a}-{s b}"
  | repeatOrder => "min repeat greater than max repeat"
  | nothingToRepeat => "nothing to repeat"
  | repeatTwice => "multiple repeat"
  | endOfPattern => "unexpected end of pattern"
  | unknownExtension e => s!"unknown extension ?{s e}"
  | unterminatedComment => "missing ), unterminated comment"
  | unterminatedGroup => "missing ), unterminated subpattern"
  | tooManyBranches => "conditional backref with more than two branches"
  | unbalanced => "unbalanced parenthesis"
  | lateOptions => "global flags not at the start of the expression"
  | localeOption => "bad inline flags: cannot use 'L' flag with a str pattern"
  | optionsClash => "bad inline flags: flags 'a', 'u' and 'L' are incompatible"
  | optionsCutShort => "missing -, : or )"
  | unknownOption => "unknown flag"
  | missingOption => "missing flag"
  | missingColon => "missing :"
  | optionForWhole true => "bad inline flags: cannot turn on global flag"
  | optionForWhole false => "bad inline flags: cannot turn off global flag"
  | kindOff => "bad inline flags: cannot turn off flags 'a', 'u' and 'L'"
  | onAndOff => "bad inline flags: flag turned on and off"
  | lookbehindWidth => "look-behind requires fixed-width pattern"
  | lookbehindTooLong => "looks too much behind"
  | templateRepeat greed => s!"internal: unsupported template operator {greed}"

/-- Where a place lies: its line, counted from 1, and its column. -/
private def lineAndColumn (source : Text) (place : Nat) : Nat × Nat :=
  let before := source.take place
  let column := (before.reverse.takeWhile (· ≠ '\n')).length
  (before.count '\n' + 1, if before.contains '\n' then column + 1 else place + 1)

/-- The message about a fault of a source text. -/
def Fault.message (source : Text) : Fault → String
  | flawed flaw none => flaw.message
  | flawed flaw (some place) =>
    let lines :=
      if source.contains '\n' then
        let (line, column) := lineAndColumn source place
        s!" (line {line}, column {column})"
      else ""
    s!"{flaw.message} at position {place}{lines}"
  | repeatTooLarge => "the repetition number is too large"
  | tooManyDigits n =>
    s!"Exceeds the limit (4300 digits) for integer string conversion: value has {n} digits; " ++
      "use sys.set_int_max_str_digits() to increase the limit"
  | kindsClash => "ASCII and UNICODE flags are incompatible"

end AgendaLinks.Regexp
