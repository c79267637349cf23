import AgendaLinks.Event
import AgendaLinks.Markup.PlainText

/-!
Finding links in the texts of an event. A link is `http://` or `https://` with at least one more
character, and goes on up to a blank, an angle bracket or a quote. A text with tags is read as markup
first.
-/

namespace AgendaLinks.Link

open Text

/-- Characters that may stand in a link. -/
def isLinkChar (c : Char) : Bool :=
  !(isBlank c || c = '<' || c = '>' || c = '"' || c = '\'')

/-- The text after the start of a link. -/
def afterStart? (t : Text) : Option Text :=
  (after? "https://".toList t).or (after? "http://".toList t)

/-- The characters of the link at the start of a text; none when there is no link. -/
def linkAt (t : Text) : Nat :=
  match afterStart? t with
  | some rest =>
    let width := (rest.takeWhile isLinkChar).length
    if width = 0 then 0 else t.length - rest.length + width
  | none => 0

/-- The links in a text, from left to right. -/
def find : Text → List Text
  | [] => []
  | c :: t =>
    let width := linkAt (c :: t)
    if width = 0 then find t else (c :: t).take width :: find ((c :: t).drop width)
termination_by t => t.length
decreasing_by
  all_goals
    simp only [List.length_drop, List.length_cons]
    omega

/-- A letter of the name of a tag, in small form. -/
private def smallLetter (c : Char) : Char :=
  if c.toNat = 0x17f then 's' else if c.toNat = 0x130 ∨ c.toNat = 0x131 then 'i' else c.toLower

/-- Tags by which markup is told from other text. -/
private def tagNames : List Text :=
  ["a".toList, "br".toList, "p".toList, "div".toList, "span".toList, "b".toList, "i".toList,
    "u".toList, "ul".toList, "li".toList, "html".toList, "body".toList]

/-- Whether a tag begins after a less-than sign. -/
def startsTag (t : Text) : Bool :=
  let t := trimLeft t
  tagNames.any fun name =>
    let rest := t.drop name.length
    (t.take name.length).map smallLetter == name && rest.head?.any (!isWord ·) && rest.contains '>'

/-- Whether a text has a tag in it. -/
def hasTag : Text → Bool
  | [] => false
  | c :: t => (c = '<' && startsTag t) || hasTag t

/-- The links in a text, which is read as markup when it has a tag in it. -/
def findIn (t : Text) : Except Markup.Fault (List Text) :=
  if hasTag t then (Markup.plainText t).map find else .ok (find t)

/-- The texts of an event that links are looked for in. -/
def textsOf (e : Event) : List Text := e.url.toList ++ e.location.toList ++ e.notes.toList

/-- The links of an event, with repeats. -/
def ofEvent (e : Event) : Except Markup.Fault (List Text) :=
  ((textsOf e).mapM findIn).map List.flatten

end AgendaLinks.Link
