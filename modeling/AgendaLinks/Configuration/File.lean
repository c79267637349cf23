import AgendaLinks.Configuration.Reader
import AgendaLinks.Log
import AgendaLinks.Text.Utf8
import AgendaLinks.Yaml.Document

/-!
Configurations in files. A missing file and a file of blanks give the empty configuration; any other is
read as one document.
-/

namespace AgendaLinks

/-- Why a file gives no configuration. -/
inductive FileFault where
  | encoding (fault : Text.Utf8Fault)
  | document (fault : Yaml.Fault)
  | configuration (fault : ConfigurationFault)

/-- The message about a fault of the file at a path. -/
def FileFault.message (path : Text) : FileFault → String
  | encoding fault => fault.message
  | document .malformed =>
    "Invalid YAML in configuration file " ++ String.ofList path ++ ": " ++ Yaml.Fault.malformed.message
  | document fault => fault.message
  | configuration fault => fault.message

/-- Whether a file is rejected, and not only unusable. -/
def FileFault.isRejection : FileFault → Bool
  | encoding _ => false
  | document fault => fault.standing == .rejection
  | configuration fault => fault.standing == .rejection

namespace Configuration

/-- The configuration of the text of a file. -/
private def ofText (t : Text) : Except FileFault Configuration := do
  let document ← (Yaml.read t).mapError .document
  (ofValue document).mapError .configuration

/-- The configuration of the file at a path, of which the bytes are given if there is one. -/
def ofFile (path : Text) (content : Option (List UInt8)) :
    Logged (Except FileFault Configuration) := do
  match content with
  | none =>
    Logged.write .info .configuration
      ("Configuration file not found, using defaults: " ++ String.ofList path)
    return .ok {}
  | some bytes =>
    match Text.ofUtf8 bytes with
    | .error fault => return .error (.encoding fault)
    | .ok t =>
      if (Text.trim t).isEmpty then return .ok {}
      match ofText t with
      | .error fault => return .error fault
      | .ok c =>
        Logged.write .info .configuration <|
          "Loaded configuration from " ++ String.ofList path ++
            s!": {c.ignore.length} ignore rules, {c.openers.length} open rules"
        return .ok c

end Configuration

end AgendaLinks
