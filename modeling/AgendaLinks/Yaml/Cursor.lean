import AgendaLinks.Text.Basic
import AgendaLinks.Yaml.Fault

/-!
A place in the text of a document, with its line and its column. Lines end with a line feed, with
the line end of older terminals, or with one of the two separators of Unicode; carriage returns are
taken out before.
-/

namespace AgendaLinks.Yaml

/-- Characters that end a line. -/
def isBreak (c : Char) : Bool := c == '\n' || c == '\x85' || c == '\u2028' || c == '\u2029'

/-- The end of the text, or a character that ends a line. -/
def endsLine (c : Option Char) : Bool := c.elim true isBreak

/-- The end of a line, or a space. -/
def endsName (c : Option Char) : Bool := endsLine c || c == some ' '

/-- The end of a line, a space or a tab. -/
def endsWord (c : Option Char) : Bool := endsName c || c == some '\t'

/-- Characters that may stand in a document. -/
def isAllowed (c : Char) : Bool :=
  let n := c.toNat
  n == 9 || n == 10 || n == 13 || (0x20 ≤ n && n ≤ 0x7e) || n == 0x85 || (0xa0 ≤ n && n ≤ 0xfffd) ||
    0x10000 ≤ n

/-- The mark that may stand at the start of a text; it takes no column. -/
def orderMark : Char := '\uFEFF'

/-- A place in a text. -/
structure Cursor where
  rest : Text
  line : Nat := 0
  column : Nat := 0
  index : Nat := 0

namespace Cursor

/-- The place after one character. -/
def next (p : Cursor) : Cursor :=
  match p.rest with
  | [] => p
  | c :: rest =>
    if isBreak c then ⟨rest, p.line + 1, 0, p.index + 1⟩
    else ⟨rest, p.line, if c = orderMark then p.column else p.column + 1, p.index + 1⟩

/-- The place after so many characters. -/
def skip : Nat → Cursor → Cursor
  | 0, p => p
  | n + 1, p => skip n p.next

/-- The start of a text, after its mark. -/
def start (t : Text) : Cursor :=
  let p : Cursor := { rest := t }
  if t.head? = some orderMark then p.next else p

/-- The next character. -/
def peek (p : Cursor) : Option Char := p.rest.head?

/-- The characters that come next as long as they satisfy a test, and the place after them. -/
def span (test : Char → Bool) (p : Cursor) : Text × Cursor :=
  let t := p.rest.takeWhile test
  (t, p.skip t.length)

/-- The end of a line here, and the place after it. -/
def lineEnd? (p : Cursor) : Option (Char × Cursor) :=
  match p.peek with
  | some '\n' | some '\x85' => some ('\n', p.next)
  | some '\u2028' => some ('\u2028', p.next)
  | some '\u2029' => some ('\u2029', p.next)
  | _ => none

/-- The place after spaces, a comment and the end of the line, if nothing else stands there. -/
def restOfLine? (p : Cursor) : Option Cursor :=
  let (_, p) := p.span (· == ' ')
  let (_, p) := if p.peek = some '#' then p.span (!isBreak ·) else ([], p)
  if endsLine p.peek then some (p.lineEnd?.elim p (·.2)) else none

/-- Whether three equal marks stand here as a word. -/
def atMark (mark : Char) (p : Cursor) : Bool :=
  match p.rest with
  | a :: b :: c :: rest => a == mark && b == mark && c == mark && endsWord rest.head?
  | _ => false

/-- Whether the marks for the start or the end of a document stand here. -/
def atSeparator (p : Cursor) : Bool := p.atMark '-' || p.atMark '.'

end Cursor

/-- What ends of lines inside a scalar stand for: the first one counts as a space, unless others
follow it or it is a separator of Unicode. -/
def folded (first : Char) (more : Text) : Text :=
  if first ≠ '\n' then first :: more
  else if more.isEmpty then [' '] else more

end AgendaLinks.Yaml
