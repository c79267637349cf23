import AgendaLinks.Text.Utf8
import AgendaLinks.Yaml.Content

/-!
The tokens of a document. Outside of brackets the columns of tokens open and close collections. Whether
a token starts a key is known only when the colon after it is met, so a key may be marked behind
tokens that are already read; it must be met in the same line and within 1024 characters.
-/

namespace AgendaLinks.Yaml

/-- A directive. -/
inductive Directive where
  | version (major : Nat)
  | handle (handle start : Text)
  | other
  deriving DecidableEq, Repr

/-- A token. -/
inductive Token where
  | directive (d : Directive)
  | documentStart
  | documentEnd
  | blockSequence
  | blockMapping
  | blockEnd
  | flowSequence
  | flowSequenceEnd
  | flowMapping
  | flowMappingEnd
  | flowEntry
  | blockEntry
  | key
  | value
  | again (name : Text)
  | anchor (name : Text)
  /-- A tag; without a handle it is written in full. -/
  | tag (handle : Option Text) (suffix : Text)
  | scalar (text : Text) (plain : Bool)
  deriving DecidableEq, Repr

/-- The tokens of a text as far as they can be read, and the fault met after them. -/
structure Tokens where
  list : List Token
  fault : Option Fault

/-! ### Names, tags and directives -/

private def isNameChar (c : Char) : Bool := c.isAlphanum || c == '-' || c == '_'

private def isUriChar (c : Char) : Bool := c.isAlphanum || "-;/?:@&=+$,_.!~*'()[]%".toList.contains c

/-- The name of an anchor, after its mark. -/
private def anchorName (p : Cursor) : Except Fault (Text × Cursor) := do
  let (name, p) := p.span isNameChar
  let ends := endsWord p.peek || p.peek.any ("?:,]\x7d%@`".toList.contains ·)
  if name.isEmpty ∨ !ends then throw .malformed
  return (name, p)

/-- A handle: an exclamation mark alone, or two with a name between them. -/
private def tagHandle (p : Cursor) : Except Fault (Text × Cursor) :=
  match p.peek with
  | some '!' =>
    let (name, q) := p.next.span isNameChar
    match q.peek with
    | some '!' => .ok ('!' :: name ++ ['!'], q.next)
    | some ' ' => if name.isEmpty then .ok (['!'], q) else .error .malformed
    | _ => .error .malformed
  | _ => .error .malformed

/-- The byte of two hexadecimal digits after a percent sign here. -/
private def escapedByte? (t : Text) : Option UInt8 :=
  match t with
  | '%' :: a :: b :: _ => do return UInt8.ofNat ((← hexDigit? a) * 16 + (← hexDigit? b))
  | _ => none

private def escapedBytes : Nat → Cursor → Except Fault (List UInt8 × Cursor)
  | 0, p => .ok ([], p)
  | steps + 1, p =>
    if p.peek ≠ some '%' then .ok ([], p)
    else match escapedByte? p.rest with
      | none => .error .malformed
      | some b => do
        let (more, p) ← escapedBytes steps (p.skip 3)
        return (b :: more, p)

private def tagUriFrom : Nat → Cursor → Except Fault (Text × Cursor)
  | 0, p => .ok ([], p)
  | steps + 1, p =>
    if p.peek = some '%' then do
      let (bytes, p) ← escapedBytes (p.rest.length + 1) p
      match Text.ofUtf8 bytes with
      | .error _ => throw .malformed
      | .ok t =>
        let (rest, p) ← tagUriFrom steps p
        return (t ++ rest, p)
    else if p.peek.any isUriChar then do
      let (t, p) := p.span fun c => isUriChar c && c != '%'
      let (rest, p) ← tagUriFrom steps p
      return (t ++ rest, p)
    else .ok ([], p)

/-- The characters of a tag, of which there is at least one. -/
private def tagUri (p : Cursor) : Except Fault (Text × Cursor) := do
  let (t, q) ← tagUriFrom (p.rest.length + 1) p
  if q.index = p.index then throw .malformed
  return (t, q)

/-- A tag, from its exclamation mark on. -/
private def tagToken (p : Cursor) : Except Fault (Token × Cursor) := do
  let (token, p) ← match p.next.peek with
    | some '<' => do
      let (suffix, p) ← tagUri (p.skip 2)
      if p.peek ≠ some '>' then throw .malformed
      pure (.tag none suffix, p.next)
    | c =>
      if endsWord c then pure (.tag none ['!'], p.next)
      else do
        let word := p.next.rest.takeWhile fun c => !endsName (some c)
        let (handle, p) ← if word.contains '!' then tagHandle p else pure (['!'], p.next)
        let (suffix, p) ← tagUri p
        pure (.tag (some handle) suffix, p)
  if !endsName p.peek then throw .malformed
  return (token, p)

private def directiveNumber (p : Cursor) : Except Fault (Nat × Cursor) := do
  let (digits, p) := p.span Char.isDigit
  if digits.isEmpty then throw .malformed
  if 4300 < digits.length then throw (.tooManyDigits digits.length)
  return (digits.foldl (fun n c => n * 10 + (c.toNat - 48)) 0, p)

private def skipSpaces (p : Cursor) : Cursor := (p.span (· == ' ')).2

private def versionDirective (p : Cursor) : Except Fault (Directive × Cursor) := do
  let (major, p) ← directiveNumber (skipSpaces p)
  if p.peek ≠ some '.' then throw .malformed
  let (_, p) ← directiveNumber p.next
  if !endsName p.peek then throw .malformed
  return (.version major, p)

private def handleDirective (p : Cursor) : Except Fault (Directive × Cursor) := do
  let (handle, p) ← tagHandle (skipSpaces p)
  if p.peek ≠ some ' ' then throw .malformed
  let (start, p) ← tagUri (skipSpaces p)
  if !endsName p.peek then throw .malformed
  return (.handle handle start, p)

private def directive (p : Cursor) : Except Fault (Directive × Cursor) := do
  let (name, p) := p.next.span isNameChar
  if name.isEmpty ∨ !endsName p.peek then throw .malformed
  let (d, p) ←
    if name = "YAML".toList then versionDirective p
    else if name = "TAG".toList then handleDirective p
    else pure (.other, (p.span (!isBreak ·)).2)
  match p.restOfLine? with
  | some p => return (d, p)
  | none => throw .malformed

/-! ### The state of reading -/

/-- A token that will turn out to start a key if a colon follows. -/
private structure OpenKey where
  /-- The number of tokens before it. -/
  place : Nat
  /-- Without a colon the text is malformed. -/
  required : Bool
  line : Nat
  column : Nat
  index : Nat

/-- What is read so far, and what is open. -/
private structure Reading where
  cursor : Cursor
  tokens : Array Token := #[]
  /-- How many brackets are open. -/
  depth : Nat := 0
  /-- The columns of the open collections outside of brackets, the innermost first. -/
  columns : List Nat := []
  keyAllowed : Bool := true
  /-- At most one open key for every depth. -/
  openKeys : List (Nat × OpenKey) := []

namespace Reading

private def column (r : Reading) : Nat := r.cursor.column

/-- The indentation of the innermost collection. -/
private def indent (r : Reading) : Int := r.columns.head?.elim (-1) fun n => n

private def isStale (r : Reading) (k : OpenKey) : Bool :=
  k.line != r.cursor.line || 1024 < r.cursor.index - k.index

/-- Without the open keys for which a colon would come too late. -/
private def dropStale (r : Reading) : Except Fault Reading :=
  if r.openKeys.any fun (_, k) => r.isStale k && k.required then .error .malformed
  else .ok { r with openKeys := r.openKeys.filter fun (_, k) => !r.isStale k }

/-- How many tokens cannot be changed any more by a key that is marked later. -/
private def settled (r : Reading) : Nat :=
  ((r.openKeys.filter fun (_, k) => !r.isStale k).map fun (_, k) => k.place).foldl min r.tokens.size

private def openKey? (r : Reading) : Option OpenKey := r.openKeys.lookup r.depth

private def withoutKey (r : Reading) : Reading :=
  { r with openKeys := r.openKeys.filter fun (d, _) => d != r.depth }

/-- Without the open key of this depth, if it may be given up. -/
private def giveUpKey (r : Reading) : Except Fault Reading :=
  if r.openKey?.any (·.required) then .error .malformed else .ok r.withoutKey

/-- With an open key here, where one may start. -/
private def mayBeKey (r : Reading) : Except Fault Reading := do
  if !r.keyAllowed then return r
  let required := r.depth = 0 ∧ r.indent = r.column
  let r ← r.giveUpKey
  let p := r.cursor
  return { r with openKeys := (r.depth, ⟨r.tokens.size, required, p.line, p.column, p.index⟩) ::
    r.openKeys }

private def push (t : Token) (r : Reading) : Reading := { r with tokens := r.tokens.push t }

private def insert (place : Nat) (t : Token) (r : Reading) : Reading :=
  { r with tokens := r.tokens.extract 0 place ++ #[t] ++ r.tokens.extract place r.tokens.size }

private def allowKey (allowed : Bool) (r : Reading) : Reading := { r with keyAllowed := allowed }

private def move (n : Nat) (r : Reading) : Reading := { r with cursor := r.cursor.skip n }

/-- With the collections closed that start to the right of a column; brackets keep all open. -/
private def closeTo (least : Int) (r : Reading) : Reading :=
  let gone := if r.depth = 0 then r.columns.takeWhile fun n : Nat => least < n else []
  { r with columns := r.columns.drop gone.length,
           tokens := r.tokens ++ (gone.map fun _ => Token.blockEnd).toArray }

/-- With a collection opened at a column to the right of the innermost, its token at a place. -/
private def openAt (column place : Nat) (t : Token) (r : Reading) : Reading :=
  if r.indent < column then { r with columns := column :: r.columns }.insert place t else r

private def skipBlanksFrom : Nat → Reading → Reading
  | 0, r => r
  | steps + 1, r =>
    let p := skipSpaces r.cursor
    let (_, p) := if p.peek = some '#' then p.span (!isBreak ·) else ([], p)
    match p.lineEnd? with
    | some (_, p) =>
      skipBlanksFrom steps { r with cursor := p, keyAllowed := r.keyAllowed || r.depth == 0 }
    | none => { r with cursor := p }

/-- At the next token, after spaces, comments and ends of lines. -/
private def skipBlanks (r : Reading) : Reading := skipBlanksFrom (r.cursor.rest.length + 1) r

/-! ### Reading a token -/

/-- One of the marks around documents. -/
private def documentMark (t : Token) (r : Reading) : Except Fault Reading := do
  let r ← (r.closeTo (-1)).giveUpKey
  return ((r.allowKey false).move 3).push t

private def directiveLine (r : Reading) : Except Fault Reading := do
  let r ← (r.closeTo (-1)).giveUpKey
  let (d, p) ← directive r.cursor
  return ({ r with cursor := p }.allowKey false).push (.directive d)

private def openBracket (t : Token) (r : Reading) : Except Fault Reading := do
  let r ← r.mayBeKey
  return ({ r with depth := r.depth + 1 }.allowKey true |>.move 1).push t

private def closeBracket (t : Token) (r : Reading) : Except Fault Reading := do
  let r ← r.giveUpKey
  return ({ r with depth := r.depth - 1 }.allowKey false |>.move 1).push t

private def comma (r : Reading) : Except Fault Reading := do
  let r ← (r.allowKey true).giveUpKey
  return (r.move 1).push .flowEntry

/-- With a collection opened here, where a line may start one. -/
private def openHere (t : Token) (r : Reading) : Except Fault Reading :=
  if 0 < r.depth then .ok r
  else if !r.keyAllowed then .error .malformed
  else .ok (r.openAt r.column r.tokens.size t)

private def dash (r : Reading) : Except Fault Reading := do
  let r ← (← r.openHere .blockSequence).giveUpKey
  return ((r.allowKey true).move 1).push .blockEntry

private def questionMark (r : Reading) : Except Fault Reading := do
  let r ← (← r.openHere .blockMapping).giveUpKey
  return ((r.allowKey (r.depth == 0)).move 1).push .key

private def colon (r : Reading) : Except Fault Reading := do
  match r.openKey? with
  | some k =>
    let r := r.withoutKey.insert k.place .key
    let r := if r.depth = 0 then r.openAt k.column k.place .blockMapping else r
    return ((r.allowKey false).move 1).push .value
  | none =>
    let r ← (← r.openHere .blockMapping).giveUpKey
    return ((r.allowKey (r.depth == 0)).move 1).push .value

/-- A token that may start a key, read by a scanner. -/
private def keyToken (scan : Cursor → Except Fault (Token × Cursor)) (r : Reading) :
    Except Fault Reading := do
  let r ← r.mayBeKey
  let (t, p) ← scan r.cursor
  return ({ r with cursor := p }.allowKey false).push t

private def block (isFolded : Bool) (r : Reading) : Except Fault Reading := do
  let r ← (r.allowKey true).giveUpKey
  let (t, p) ← blockScalar isFolded r.indent r.cursor
  return { r with cursor := p }.push (.scalar t false)

private def plain (r : Reading) : Except Fault Reading := do
  let r ← r.mayBeKey
  let (t, newLine, p) := plainScalar (0 < r.depth) r.indent r.cursor
  return ({ r with cursor := p }.allowKey newLine).push (.scalar t true)

private def scanned (f : α → Token) (scan : Cursor → Except Fault (α × Cursor)) (p : Cursor) :
    Except Fault (Token × Cursor) := do
  let (a, p) ← scan p
  return (f a, p)

/-- Whether a plain scalar starts here. -/
private def startsPlain (r : Reading) (c : Char) (next : Option Char) : Bool :=
  let marks := "-?:,[]\x7b\x7d#&*!|>'\"%@`".toList
  (!endsWord (some c) && !marks.contains c) ||
    (!endsWord next && (c == '-' || (r.depth == 0 && (c == '?' || c == ':'))))

/-- What is read with the token that starts with a character. -/
private def token (c : Char) (r : Reading) : Except Fault Reading :=
  let p := r.cursor
  let next := p.next.peek
  let inFlow : Bool := 0 < r.depth
  if c = '%' ∧ r.column = 0 then r.directiveLine
  else if r.column = 0 ∧ p.atMark '-' then r.documentMark .documentStart
  else if r.column = 0 ∧ p.atMark '.' then r.documentMark .documentEnd
  else match c with
    | '[' => r.openBracket .flowSequence
    | '\x7b' => r.openBracket .flowMapping
    | ']' => r.closeBracket .flowSequenceEnd
    | '\x7d' => r.closeBracket .flowMappingEnd
    | ',' => r.comma
    | '*' => r.keyToken (scanned .again fun p => anchorName p.next)
    | '&' => r.keyToken (scanned .anchor fun p => anchorName p.next)
    | '!' => r.keyToken tagToken
    | '\'' | '"' => r.keyToken (scanned (.scalar · false) quotedScalar)
    | c =>
      if c = '-' ∧ endsWord next then r.dash
      else if c = '?' ∧ (inFlow ∨ endsWord next) then r.questionMark
      else if c = ':' ∧ (inFlow ∨ endsWord next) then r.colon
      else if c = '|' ∧ !inFlow then r.block false
      else if c = '>' ∧ !inFlow then r.block true
      else if r.startsPlain c next then r.plain
      else .error .malformed

/-- One more token and those that its column closes, or the end. -/
private def step (r : Reading) : Except Fault (Reading × Bool) := do
  let r ← r.skipBlanks.dropStale
  let r := r.closeTo r.column
  match r.cursor.peek with
  | some c => return (← r.token c, false)
  | none => return (← (r.closeTo (-1)).giveUpKey, true)

private def tokensFrom : Nat → Reading → Tokens
  | 0, r => ⟨r.tokens.toList, some .malformed⟩
  | steps + 1, r =>
    match r.step with
    | .error fault => ⟨(r.tokens.extract 0 r.settled).toList, some fault⟩
    | .ok (r, true) => ⟨r.tokens.toList, none⟩
    | .ok (r, false) => tokensFrom steps r

end Reading

/-- The tokens of a text without carriage returns. After a fault only those tokens are given that
nothing after them could have changed. -/
def Tokens.ofText (t : Text) : Tokens :=
  if t.all isAllowed then Reading.tokensFrom (t.length + 2) { cursor := .start t }
  else ⟨[], some .malformed⟩

end AgendaLinks.Yaml
