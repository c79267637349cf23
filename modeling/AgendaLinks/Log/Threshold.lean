import AgendaLinks.Log
import AgendaLinks.Text.Casing

/-!
The level from which on messages are written, by its name in letters of either case. Some levels have
two names; a name that is none of them stands for warnings, unless it is that of a setting of the log.
-/

namespace AgendaLinks

/-- Why a name gives no level: it is that of a setting. -/
inductive ThresholdFault where
  /-- The setting is the format of messages, which is a text like the name of a level. -/
  | setting
  /-- The setting is the table of the styles in which a format can be written. -/
  | styles
  deriving DecidableEq, Repr

private def classicFormat : String := "%(levelname)s:%(name)s:%(message)s"

private def bracedFormat : String := "\x7blevelname\x7d:\x7bname\x7d:\x7bmessage\x7d"

private def dollarFormat : String :=
  "$\x7blevelname\x7d:$\x7bname\x7d:$\x7bmessage\x7d"

private def shownStyle (mark kind format : String) : String :=
  "'" ++ mark ++ "': (<class 'logging." ++ kind ++ "'>, '" ++ format ++ "')"

def ThresholdFault.message : ThresholdFault → String
  | setting => "Unknown level: '" ++ classicFormat ++ "'"
  | styles => "Level not an integer or a valid string: \x7b" ++
      ", ".intercalate [shownStyle "%" "PercentStyle" classicFormat,
        shownStyle "\x7b" "StrFormatStyle" bracedFormat,
        shownStyle "$" "StringTemplateStyle" dollarFormat] ++ "\x7d"

private def ranks : List (String × Nat) :=
  [("NOTSET", 0), ("DEBUG", 10), ("INFO", 20), ("WARN", 30), ("WARNING", 30), ("ERROR", 40),
    ("CRITICAL", 50), ("FATAL", 50)]

/-- The least rank of the messages that are written. -/
def thresholdNamed (name : Text) : Except ThresholdFault Nat :=
  let name := Text.latinUpper name
  if name = "BASIC_FORMAT".toList then .error .setting
  else if name = "_STYLES".toList then .error .styles
  else .ok (((ranks.find? fun r => r.1.toList = name).map (·.2)).getD 30)

end AgendaLinks
