import AgendaLinks.Document.Printer
import AgendaLinks.Regexp.Fault

/-!
What can be wrong with a configuration. Nearly every fault is a rejection of the document; a few
regular expressions are refused outside the rules for documents, and a value with a whole number too
long to be written cannot be shown in a message.
-/

namespace AgendaLinks

/-- The part of a configuration that a value stands for. -/
inductive Part where
  | whole
  | calendars
  | urls
  | ignore
  | accounts
  | accountsOf (service : String)
  | openers
  | opener
  deriving DecidableEq, Repr

/-- The name of a part in a message. -/
def Part.name : Part → String
  | whole => "configuration"
  | calendars => "calendars"
  | urls => "urls"
  | ignore => "urls.ignore"
  | accounts => "urls.account"
  | accountsOf service => s!"urls.account.{service}"
  | openers => "urls.open"
  | opener => "urls.open entry"

/-- Why a document is no configuration. -/
inductive ConfigurationFault where
  | noMapping (part : Part) (value : Value)
  | noList (part : Part) (value : Value)
  | patternKind (value : Value)
  | patternSource (value : Value)
  | patternValue (value : Value)
  | badRegexp (source : Text) (fault : Regexp.Fault)
  | noRule (value : Value)
  | ruleField (key : Value)
  | noRules (value : Value)
  | noTemplate (value : Value)
  | placeholders (template : Text)
  /-- A whole number is too long to be written in a message or as a name. -/
  | unwritable

namespace ConfigurationFault

/-- The place of the link in a command. -/
def placeholder : Text := ['%', 's']

private def shown (v : Value) : String := String.ofList v.shown

/-- The fault about a value, which has to be writable to be shown. -/
def about (fault : Value → ConfigurationFault) (v : Value) : ConfigurationFault :=
  if v.writable then fault v else .unwritable

/-- How a fault is answered. -/
inductive Standing where
  /-- The document is rejected. -/
  | rejection
  /-- A number is out of range. -/
  | overflow
  /-- A value cannot be used. -/
  | misuse
  deriving DecidableEq, Repr

def standing : ConfigurationFault → Standing
  | badRegexp _ (.flawed ..) => .rejection
  | badRegexp _ .repeatTooLarge => .overflow
  | badRegexp _ _ => .misuse
  | unwritable => .misuse
  | _ => .rejection

/-- The message about a fault. -/
def message : ConfigurationFault → String
  | noMapping part v => s!"'{part.name}' must be a mapping, got: {shown v}"
  | noList part v => s!"'{part.name}' must be a list, got: {shown v}"
  | patternKind v => s!"Unsupported pattern type: {shown v}"
  | patternSource v => s!"Regexp pattern must be a string, got: {shown v}"
  | patternValue v => s!"Unsupported pattern value of type {v.kindName}: {shown v}"
  | badRegexp source fault =>
    let detail := fault.message source
    match fault with
    | .flawed .. => s!"Invalid regexp pattern {String.ofList (Text.quoted source)}: {detail}"
    | _ => detail
  | noRule v => s!"Rule must be a mapping, got: {shown v}"
  | ruleField key => s!"Unsupported rule field: {shown key}"
  | noRules v => s!"Rules must be a list, got: {shown v}"
  | noTemplate v => s!"Open rule requires a 'with' command template, got: {shown v}"
  | placeholders t =>
    s!"Open command template must contain exactly one '%s' placeholder: {String.ofList (Text.quoted t)}"
  | unwritable =>
    "Exceeds the limit (4300 digits) for integer string conversion; " ++
      "use sys.set_int_max_str_digits() to increase the limit"

end ConfigurationFault

end AgendaLinks
