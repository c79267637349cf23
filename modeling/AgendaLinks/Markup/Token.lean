import AgendaLinks.Markup.Reference
import AgendaLinks.Text.Casing
import AgendaLinks.Text.Classes

/-!
The tokens of markup. Markup is read leniently: what begins like a tag, a comment or a reference but
does not end is text. That is known only at the end, so reading goes over the markup once, stops at
the first piece without an end, and goes on from there with the knowledge that no more will come.
-/

namespace AgendaLinks.Markup

open Text

/-- A token of markup. -/
inductive Token where
  | text (text : Text)
  /-- The start of an element, with its attributes; some elements end where they start. -/
  | start (name : Text) (attributes : List (Text × Text)) (closed : Bool)
  | finish (name : Text)
  /-- A section of text in which nothing is markup. -/
  | verbatim (text : Text)
  /-- A comment, a declaration or an instruction. -/
  | aside
  deriving DecidableEq, Repr

private def isQuote (c : Char) : Bool := c = '\'' || c = '"'

/-- Letters of the name of an element. -/
def isTagChar (c : Char) : Bool := !"\t\n\r\x0c />\x00".toList.contains c

/-- The blanks and slashes between attributes, and what follows; a slash that ends a tag is not among
them. The character before what follows is answered too. -/
def skipSeparators (last : Char) : Text → Char × Text
  | [] => (last, [])
  | c :: t =>
    if isBlank c then skipSeparators c t
    else if c = '/' && t.head? ≠ some '>' then skipSeparators c t
    else (last, c :: t)

/-- A value that goes up to a blank or the end of the tag. -/
private def bareValue (t : Text) : Text × Text := t.span fun c => !(isBlank c || c = '>')

/-- The value after the name of an attribute, the last character of it, and what follows. A quote
without an end takes back what stands before it: the blanks, or all but one of several equals
signs. -/
def value? (t : Text) : Option (Text × Char × Text) :=
  let (signs, rest) := (t.dropWhile isBlank).span (· = '=')
  let blanks := rest.takeWhile isBlank
  match signs, rest.dropWhile isBlank with
  | [], _ => none
  | _, q :: inner =>
    if isQuote q then
      match cut q inner with
      | (value, some rest) => some (value, q, rest)
      | (_, none) =>
        match blanks.getLast? with
        | some blank => some ([], '=', blank :: q :: inner)
        | none =>
          if 1 < signs.length then
            let (value, rest) := bareValue ('=' :: q :: inner)
            some (value, '=', rest)
          else none
    else
      let (value, rest) := bareValue (q :: inner)
      some (value, '=', rest)
  | _, [] => some ([], '=', [])

/-- Attributes, each with its value as it is written, and what follows them. -/
def attributes : Nat → Char → Text → List (Text × Text) × Text
  | 0, _, t => ([], t)
  | n + 1, last, t =>
    match t with
    | [] => ([], [])
    | c :: rest =>
      if (isQuote last || isBlank last || last = '/') && !(isBlank c || c = '/' || c = '>') then
        let (more, after) := rest.span fun d => !(isBlank d || d = '/' || d = '=' || d = '>')
        let name := c :: more
        let (value, last, after) := (value? after).getD ([], name.getLastD c, after)
        let (last, after) := skipSeparators last after
        let (others, after) := attributes n last after
        ((lower name, value) :: others, after)
      else ([], t)

/-- What a piece of markup turns out to be. -/
inductive Piece where
  /-- A token, and what follows it. -/
  | token (token : Token) (rest : Text)
  /-- Nothing, and what follows it. -/
  | skip (rest : Text)
  /-- A piece that does not end. -/
  | endless

/-- The piece that starts with the name of an element. -/
def startTag (t : Text) : Except Fault Piece := do
  let (name, rest) := t.span isTagChar
  let (last, rest) := skipSeparators (name.getLastD 'a') rest
  let (written, rest) := attributes rest.length last rest
  let token (closed : Bool) (rest : Text) : Except Fault Piece := do
    let values ← written.mapM fun (key, value) => (attributeValue value).map fun v => (key, v)
    return .token (.start (lower name) values closed) rest
  match rest with
  | [] => return .endless
  | '>' :: rest => token false rest
  | '/' :: '>' :: rest => token true rest
  | c :: _ =>
    if c.isAlpha || c = '=' then return .endless
    return .token (.text ('<' :: t.take (t.length - rest.length))) rest

/-- The piece that starts with the slash of an end tag, given what follows the slash. -/
def endTag (t : Text) : Piece :=
  match cut '>' t with
  | (_, none) => .endless
  | (inner, some rest) =>
    let spaced := (trimLeft inner).span fun c => c.isAlphanum || "-.:_".toList.contains c
    if spaced.1.head?.any Char.isAlpha && spaced.2.all isBlank then
      .token (.finish (lower spaced.1)) rest
    else if inner.head?.any Char.isAlpha then .token (.finish (lower (inner.takeWhile isTagChar))) rest
    else if inner.isEmpty then .skip rest
    else .token .aside rest

/-- The text before the first place where a text, blanks and another text follow each other, and what
follows them. -/
private def cutAtSpaced (first last : Text) : Text → Option (Text × Text)
  | [] => none
  | c :: t =>
    match (after? first (c :: t)).bind fun rest => after? last (trimLeft rest) with
    | some rest => some ([], rest)
    | none => (cutAtSpaced first last t).map fun (left, right) => (c :: left, right)

/-- The text before the end of a section, and what follows it. -/
private def cutAtSectionEnd : Text → Option (Text × Text)
  | [] => none
  | c :: t =>
    let rest := (after? [']'] (c :: t)).bind fun rest =>
      (after? [']'] (trimLeft rest)).bind fun rest => after? ['>'] (trimLeft rest)
    match rest with
    | some rest => some ([], rest)
    | none => (cutAtSectionEnd t).map fun (left, right) => (c :: left, right)

/-- The piece that starts a section, given what follows its bracket. -/
private def markedSection (t : Text) : Except Fault Piece :=
  match t with
  | [] => .ok .endless
  | c :: _ =>
    if !c.isAlpha then .error (.sectionName (("<![".toList ++ t).take 20))
    else
      let (name, rest) := t.span fun c => c.isAlphanum || c = '-' || c = '_' || c = '.'
      let blanks := rest.takeWhile isBlank
      let kind := String.ofList (name.map Char.toLower)
      let found : Except Fault (Option (Text × Text)) :=
        if rest.length = blanks.length then .ok none
        else if ["temp", "cdata", "ignore", "include", "rcdata"].contains kind then
          .ok (cutAtSectionEnd t)
        else if ["if", "else", "endif"].contains kind then .ok (cutAtSpaced [']'] ['>'] t)
        else .error (.sectionKind (name ++ blanks))
      found.map fun
        | none => .endless
        | some (inner, rest) =>
          if (inner.take 6).map Char.toUpper = "CDATA[".toList then
            .token (.verbatim (inner.drop 6)) rest
          else .token .aside rest

/-- The piece that starts with an exclamation mark, given what follows it. -/
private def declaration (t : Text) : Except Fault Piece :=
  match after? ['-', '-'] t, after? ['['] t with
  | some rest, _ =>
    .ok <| match cutAtSpaced ['-', '-'] ['>'] rest with
      | some (_, rest) => .token .aside rest
      | none => .endless
  | _, some rest => markedSection rest
  | _, _ =>
    let isType := (t.take 7).map Char.toLower = "doctype".toList
    .ok <| match cut '>' (if isType then t.drop 7 else t) with
      | (_, some rest) => .token .aside rest
      | (_, none) => .endless

/-- The piece that a less-than sign begins, given what follows the sign. -/
def piece (t : Text) : Except Fault Piece :=
  match t with
  | [] => .ok (.token (.text ['<']) [])
  | '/' :: rest => .ok (endTag rest)
  | '!' :: rest => declaration rest
  | '?' :: rest => .ok <| match cut '>' rest with
    | (_, some rest) => .token .aside rest
    | (_, none) => .endless
  | c :: _ => if c.isAlpha then startTag t else .ok (.token (.text ['<']) t)

/-- Text in the place of an endless piece: up to its greater-than sign, or else up to the next
less-than sign, or else the sign alone that begins it. -/
private def asText (t : Text) : Text × Text :=
  match cut '>' t with
  | (inner, some rest) => ('<' :: inner ++ ['>'], rest)
  | (_, none) =>
    match cut '<' t with
    | (inner, some rest) => ('<' :: inner, '<' :: rest)
    | (_, none) => (['<'], t)

/-- Elements whose contents are no markup. -/
private def isRaw (name : Text) : Bool := name = "script".toList || name = "style".toList

/-- The contents of an element up to its end tag, and what follows that. -/
private def cutAtEndTag (name : Text) : Text → Option (Text × Text)
  | [] => none
  | c :: t =>
    let rest := (after? ['<', '/'] (c :: t)).bind fun rest =>
      let rest := trimLeft rest
      if (rest.take name.length).map Char.toLower = name then
        after? ['>'] (trimLeft (rest.drop name.length))
      else none
    match rest with
    | some rest => some ([], rest)
    | none => (cutAtEndTag name t).map fun (left, right) => (c :: left, right)

/-- A token of text before others, if there is any text. -/
def ofText (t : Text) (tokens : List Token) : List Token :=
  if t.isEmpty then tokens else .text t :: tokens

/-- The element whose contents follow a token as they are. -/
def rawAfter : Token → Option Text
  | .start name _ false => if isRaw name then some name else none
  | _ => none

/-- The tokens of a text inside an element with raw contents, or outside of such elements; with the
knowledge that no more text will come, or without it. -/
def scan : Nat → Bool → Option Text → Text → Except Fault (List Token)
  | 0, _, _, _ => .ok []
  | n + 1, ended, some name, t =>
    match cutAtEndTag name t with
    | none => .ok []
    | some (inner, rest) =>
      (fun tokens => ofText inner (.finish name :: tokens)) <$> scan n ended none rest
  | n + 1, ended, none, t => do
    let (plain, rest) := t.span fun c => !(c = '<' || c = '&')
    ofText plain <$> match rest with
    | [] => .ok []
    | '<' :: after => do
      match ← piece after with
      | .token token rest => (token :: ·) <$> scan n ended (rawAfter token) rest
      | .skip rest => scan n ended none rest
      | .endless =>
        if ended then
          let (text, rest) := asText after
          (.text text :: ·) <$> scan n true none rest
        else scan n true none rest
    | _ :: after => do
      match ← reference after with
      | .text text width => (.text text :: ·) <$> scan n ended none (after.drop width)
      | .nothing => (.text ['&'] :: ·) <$> scan n ended none after
      | .unfinished => .ok [.text (if after.length = 1 then after else rest)]
      | .noNumber =>
        if !ended && after.contains ';' then
          (.text (rest.take 2) :: ·) <$> scan n true none (rest.drop 2)
        else .ok [.text rest]

/-- The tokens of markup. -/
def tokens (t : Text) : Except Fault (List Token) := scan (t.length + 2) false none t

end AgendaLinks.Markup
