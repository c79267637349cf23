import AgendaLinks.Markup.Token

/-!
The text of markup. Every stretch of text between two tags is a piece of its own; the target of a link
is a piece before the pieces of the link itself. Scripts, styles, templates and readings are left out.
Elements without contents end at once, and an end tag that belongs to none that is open is passed over.
-/

namespace AgendaLinks.Markup

/-- Elements that never have contents. -/
private def isEmptyElement (name : Text) : Bool :=
  ["area", "base", "br", "col", "embed", "hr", "img", "input", "keygen", "link", "menuitem", "meta",
    "param", "source", "track", "wbr", "basefont", "bgsound", "command", "frame", "image", "isindex",
    "nextid", "spacer"].contains (String.ofList name)

/-- Elements whose text is not for readers. -/
private def isHidden (name : Text) : Bool :=
  ["script", "style", "template", "rt", "rp"].contains (String.ofList name)

/-- Markup in the middle of being read. -/
structure Page where
  /-- The open elements, the innermost first. -/
  opened : List Text := []
  /-- Elements without contents, whose end tags are passed over if they come. -/
  emptied : List Text := []
  /-- The text since the last tag. -/
  current : Text := []
  /-- The pieces before it, the last one first. -/
  pieces : List Text := []

namespace Page

/-- The text since the last tag becomes a piece. -/
def endPiece (p : Page) : Page :=
  if p.current.isEmpty || p.opened.any isHidden then { p with current := [] }
  else { p with current := [], pieces := p.current :: p.pieces }

/-- The innermost element with a name is closed, and all elements in it. -/
def close (name : Text) (p : Page) : Page :=
  let p := p.endPiece
  if p.opened.contains name then
    { p with opened := (p.opened.dropWhile (· ≠ name)).drop 1 }
  else p

/-- The end tag of an element. -/
def finish (name : Text) (p : Page) : Page :=
  if p.emptied.contains name then { p with emptied := p.emptied.erase name } else p.close name

/-- The start tag of an element. The target of a link is a piece before the text of the link. -/
def start (name : Text) (attributes : List (Text × Text)) (closed : Bool) (p : Page) : Page :=
  let p := p.endPiece
  let target := if name = ['a'] then attributes.reverse.lookup "href".toList else none
  let p := { p with opened := name :: p.opened, pieces := target.toList ++ p.pieces }
  if closed then p.finish name
  else if isEmptyElement name then
    let p := p.close name
    { p with emptied := name :: p.emptied }
  else p

/-- What a token does. -/
def step (p : Page) : Token → Page
  | .text t => { p with current := p.current ++ t }
  | .start name attributes closed => p.start name attributes closed
  | .finish name => p.finish name
  | .verbatim t =>
    let p := p.endPiece
    { p with pieces := t :: p.pieces }
  | .aside => p.endPiece

end Page

/-- The pieces of text of markup. -/
def pieces (t : Text) : Except Fault (List Text) :=
  (tokens t).map fun ts => ((ts.foldl Page.step {}).endPiece).pieces.reverse

/-- The text of markup, with a space between its pieces. -/
def plainText (t : Text) : Except Fault Text := (pieces t).map (Text.joinWith [' '])

end AgendaLinks.Markup
