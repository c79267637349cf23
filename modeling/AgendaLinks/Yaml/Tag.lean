import AgendaLinks.Regexp.Matcher
import AgendaLinks.Regexp.Reader

/-!
The kinds of values that tags name. A scalar without marks and without a tag has the kind that its
text looks like: a truth value, a number, a time, null, or one of the two special keys.
-/

namespace AgendaLinks.Yaml

/-- A kind of value. -/
inductive Tag where
  | null
  | bool
  | int
  | float
  | binary
  | timestamp
  | text
  | list
  | mapping
  | set
  | orderedMap
  | pairs
  /-- The key of a mapping that takes over the entries of others. -/
  | merge
  /-- The key of a mapping that stands for one scalar. -/
  | value
  | unknown
  deriving DecidableEq, Repr

namespace Tag

/-- What the names of the known kinds start with. -/
def family : Text := "tag:yaml.org,2002:".toList

private def names : List (String × Tag) :=
  [("null", null), ("bool", bool), ("int", int), ("float", float), ("binary", binary),
    ("timestamp", timestamp), ("str", text), ("seq", list), ("map", mapping), ("set", set),
    ("omap", orderedMap), ("pairs", pairs), ("merge", merge), ("value", value)]

/-- The kind that a full tag names. -/
def ofUri (uri : Text) : Tag :=
  match Text.after? family uri with
  | some name => ((names.find? fun n => n.1.toList = name).map (·.2)).getD unknown
  | none => unknown

/-- Whether values of a kind are collections, which cannot be keys. -/
def isCollection : Tag → Bool
  | list | mapping | set | orderedMap | pairs => true
  | _ => false

private def shape (pattern : String) : Option Regexp :=
  (Regexp.compile (("^(?:" ++ pattern ++ ")$").toList)).toOption

/-- The texts of the kinds, in the order in which they are tried. -/
private def shapes : List (Tag × Option Regexp) :=
  [(bool, shape <| "yes|Yes|YES|no|No|NO|true|True|TRUE|false|False|FALSE|" ++
      "on|On|ON|off|Off|OFF"),
    (float, shape <| "[-+]?(?:[0-9][0-9_]*)\\.[0-9_]*(?:[eE][-+][0-9]+)?|" ++
      "\\.[0-9][0-9_]*(?:[eE][-+][0-9]+)?|[-+]?[0-9][0-9_]*(?::[0-5]?[0-9])+\\.[0-9_]*|" ++
      "[-+]?\\.(?:inf|Inf|INF)|\\.(?:nan|NaN|NAN)"),
    (int, shape <| "[-+]?0b[0-1_]+|[-+]?0[0-7_]+|[-+]?(?:0|[1-9][0-9_]*)|[-+]?0x[0-9a-fA-F_]+|" ++
      "[-+]?[1-9][0-9_]*(?::[0-5]?[0-9])+"),
    (merge, shape "<<"),
    (null, shape "~|null|Null|NULL"),
    (timestamp, shape <| "[0-9][0-9][0-9][0-9]-[0-9][0-9]-[0-9][0-9]|" ++
      "[0-9][0-9][0-9][0-9]-[0-9][0-9]?-[0-9][0-9]?(?:[Tt]|[ \\t]+)[0-9][0-9]?" ++
      ":[0-9][0-9]:[0-9][0-9](?:\\.[0-9]*)?(?:[ \\t]*(?:Z|[-+][0-9][0-9]?(?::[0-9][0-9])?))?"),
    (value, shape "="),
    (unknown, shape "!|&|\\*")]

/-- The kind that a text looks like; the empty text looks like null. -/
def ofText (t : Text) : Tag :=
  if t.isEmpty then null
  else ((shapes.find? fun s => s.2.any (·.occursIn t)).map (·.1)).getD text

end Tag

end AgendaLinks.Yaml
