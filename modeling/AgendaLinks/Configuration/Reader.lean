import AgendaLinks.Configuration.Basic
import AgendaLinks.Configuration.Fault
import AgendaLinks.Regexp.Reader

/-!
Configurations from documents. What is null is absent: a null pattern accepts everything, a null rule
has no constraints, and null in the place of a list of rules is one such rule. Entries keep the order
of the document, and the first fault in it is answered, apart from the parts that hold other parts,
which are looked at first.
-/

namespace AgendaLinks

open ConfigurationFault

/-- The pattern that a value stands for. -/
def Pattern.ofValue : Value → Except ConfigurationFault Pattern
  | .null => .ok .any
  | .text t => .ok (.literal t)
  | .mapping entries =>
    let isRegexp := match Value.lookup "type".toList entries with
      | .text kind => kind == "regexp".toList
      | _ => false
    if isRegexp then
      match Value.lookup "pattern".toList entries with
      | .text source =>
        match Regexp.compile source with
        | .ok r => .ok (.regexp r)
        | .error fault => .error (.badRegexp source fault)
      | other => .error (about .patternSource other)
    else .error (about .patternKind (Value.lookup "type".toList entries))
  | other => .error (about .patternValue other)

/-- The constraint that an entry of a rule stands for. -/
def Constraint.ofEntry : Value × Value → Except ConfigurationFault Constraint
  | (key, value) =>
    let field := match key with
      | .text name => Field.named? name
      | _ => none
    match field with
    | some field => (Pattern.ofValue value).map (Constraint.mk field)
    | none => .error (about .ruleField key)

/-- The rule that a value stands for. -/
def Rule.ofValue : Value → Except ConfigurationFault Rule
  | .null => .ok {}
  | .mapping entries => (entries.mapM Constraint.ofEntry).map Rule.mk
  | other => .error (about .noRule other)

/-- The rules that a value stands for. -/
def Rule.listOfValue : Value → Except ConfigurationFault (List Rule)
  | .null => .ok [{}]
  | .list items => items.mapM Rule.ofValue
  | other => .error (about .noRules other)

/-- The entries of a part that has to be a mapping. -/
def entriesOf (part : Part) : Value → Except ConfigurationFault (List (Value × Value))
  | .null => .ok []
  | .mapping entries => .ok entries
  | other => .error (about (.noMapping part) other)

/-- The items of a part that has to be a list. -/
def itemsOf (part : Part) : Value → Except ConfigurationFault (List Value)
  | .null => .ok []
  | .list items => .ok items
  | other => .error (about (.noList part) other)

/-- The choice of an account by its rules. -/
def Choice.ofAccount : Value × Value → Except ConfigurationFault Choice
  | (name, rules) =>
    if name.writable then (Rule.listOfValue rules).map (Choice.mk name.plain)
    else .error .unwritable

/-- The accounts of a service. -/
def accountsOf (kind : AccountKind) (accounts : List (Value × Value)) :
    Except ConfigurationFault (List Choice) := do
  let entries ← entriesOf (.accountsOf kind.name) (Value.lookup kind.name.toList accounts)
  entries.mapM Choice.ofAccount

/-- The choice of a command by its rules; it has none if its condition is empty. -/
def Choice.ofOpener (value : Value) : Except ConfigurationFault Choice := do
  let entries ← entriesOf .opener value
  match Value.lookup "with".toList entries with
  | .text template =>
    if Text.countOf placeholder template = 1 then
      let condition := Value.lookup "if".toList entries
      (Rule.listOfValue (if condition.isEmpty then .null else condition)).map (Choice.mk template)
    else .error (.placeholders template)
  | other => .error (about .noTemplate other)

/-- The configuration that a document stands for. -/
def Configuration.ofValue (document : Value) : Except ConfigurationFault Configuration := do
  let root ← entriesOf .whole document
  let urls ← entriesOf .urls (Value.lookup "urls".toList root)
  let accounts ← entriesOf .accounts (Value.lookup "account".toList urls)
  return {
    calendars :=
      ← (← itemsOf .calendars (Value.lookup "calendars".toList root)).mapM Pattern.ofValue
    ignore := ← (← itemsOf .ignore (Value.lookup "ignore".toList urls)).mapM Rule.ofValue
    google := ← accountsOf .google accounts
    zoom := ← accountsOf .zoom accounts
    openers := ← (← itemsOf .openers (Value.lookup "open".toList urls)).mapM Choice.ofOpener }

end AgendaLinks
