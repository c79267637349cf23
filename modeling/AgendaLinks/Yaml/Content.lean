import AgendaLinks.Yaml.Cursor

/-!
The texts of scalars. A quoted scalar has escapes, a block scalar keeps or folds its lines, and a
plain scalar ends before what would have another meaning. Each is read from its first character on,
and the place after it is given with it.
-/

namespace AgendaLinks.Yaml

private def isGap (c : Char) : Bool := c == ' ' || c == '\t'

/-! ### Quoted scalars -/

private def quotedBreaksFrom : Nat → Cursor → Except Fault (Text × Cursor)
  | 0, p => .ok ([], p)
  | steps + 1, p =>
    if p.atSeparator then .error .malformed
    else
      let (_, p) := p.span isGap
      match p.lineEnd? with
      | some (c, p) => do
        let (more, p) ← quotedBreaksFrom steps p
        return (c :: more, p)
      | none => .ok ([], p)

/-- The ends of lines up to the next character of a quoted scalar; no document may start or end
among them. -/
private def quotedBreaks (p : Cursor) : Except Fault (Text × Cursor) :=
  quotedBreaksFrom (p.rest.length + 1) p

/-- The characters that one letter after a backslash stands for. -/
private def letterEscape? (c : Char) : Option Char :=
  match c with
  | '0' => some (Char.ofNat 0)
  | 'a' => some '\x07'
  | 'b' => some '\x08'
  | 't' | '\t' => some '\t'
  | 'n' => some '\n'
  | 'v' => some '\x0b'
  | 'f' => some '\x0c'
  | 'r' => some '\r'
  | 'e' => some '\x1b'
  | ' ' => some ' '
  | '"' => some '"'
  | '\\' => some '\\'
  | '/' => some '/'
  | 'N' => some '\x85'
  | '_' => some '\xa0'
  | 'L' => some '\u2028'
  | 'P' => some '\u2029'
  | _ => none

private def codeWidth? (c : Char) : Option Nat :=
  match c with
  | 'x' => some 2
  | 'u' => some 4
  | 'U' => some 8
  | _ => none

/-- The value of a hexadecimal digit. -/
def hexDigit? (c : Char) : Option Nat :=
  if c.isDigit then some (c.toNat - 48)
  else if 'a' ≤ c ∧ c ≤ 'f' then some (c.toNat - 87)
  else if 'A' ≤ c ∧ c ≤ 'F' then some (c.toNat - 55)
  else none

/-- The character of a code. A code that is half of a pair, which is no character, gives the zero one. -/
private def escapeCode (width : Nat) (p : Cursor) : Except Fault (Text × Cursor) :=
  let digits := (p.rest.take width).filterMap hexDigit?
  if digits.length < width then .error .malformed
  else
    let code := digits.foldl (fun n d => n * 16 + d) 0
    if 2 ^ 31 ≤ code then .error .escapeTooLarge
    else if 0x110000 ≤ code then .error .escapeRange
    else .ok ([Char.ofNat code], p.skip width)

/-- What follows a backslash. -/
private def escape (p : Cursor) : Except Fault (Text × Cursor) :=
  match p.peek with
  | none => .error .malformed
  | some c =>
    match letterEscape? c, codeWidth? c, p.lineEnd? with
    | some d, _, _ => .ok ([d], p.next)
    | none, some width, _ => escapeCode width p.next
    | none, none, some (_, p) => quotedBreaks p
    | none, none, none => .error .malformed

/-- Blanks and ends of lines between two other characters of a quoted scalar. -/
private def quotedGap (p : Cursor) : Except Fault (Text × Cursor) := do
  let (blanks, p) := p.span isGap
  match p.lineEnd? with
  | some (c, p) =>
    let (more, p) ← quotedBreaks p
    return (folded c more, p)
  | none => return (blanks, p)

private def quotedFrom (mark : Char) : Nat → Cursor → Except Fault (Text × Cursor)
  | 0, _ => .error .malformed
  | steps + 1, p => do
    let after (found : Text × Cursor) : Except Fault (Text × Cursor) := do
      let (rest, p) ← quotedFrom mark steps found.2
      return (found.1 ++ rest, p)
    match p.peek with
    | none => throw .malformed
    | some c =>
      if c = mark then
        if mark = '\'' ∧ p.next.peek = some '\'' then after (['\''], p.skip 2)
        else return ([], p.next)
      else if c = '\\' ∧ mark = '"' then after (← escape p.next)
      else if isGap c ∨ isBreak c then after (← quotedGap p)
      else after ([c], p.next)

/-- A quoted scalar. -/
def quotedScalar (p : Cursor) : Except Fault (Text × Cursor) :=
  match p.peek with
  | some mark => quotedFrom mark (p.rest.length + 1) p.next
  | none => .error .malformed

/-! ### Block scalars -/

/-- What becomes of the line ends after the last line of a block scalar. -/
private inductive Chomping where
  | strip
  | clip
  | keep

private def chomping? (c : Option Char) : Option Chomping :=
  match c with
  | some '+' => some .keep
  | some '-' => some .strip
  | _ => none

private def indentDigit? (c : Option Char) : Option Nat :=
  c.bind fun c => if c.isDigit then some (c.toNat - 48) else none

/-- The marks at the head of a block scalar, in either order. -/
private def blockHead (p : Cursor) : Except Fault (Chomping × Option Nat × Cursor) := do
  let (first, p) := match chomping? p.peek with
    | some k => (some k, p.next)
    | none => (none, p)
  let (width, p) := match indentDigit? p.peek with
    | some d => (some d, p.next)
    | none => (none, p)
  let (last, p) := match first, width, chomping? p.peek with
    | none, some _, some k => (some k, p.next)
    | k, _, _ => (k, p)
  if width = some 0 ∨ !endsName p.peek then throw .malformed
  return (last.getD .clip, width, p)

/-- The place after the spaces up to an indentation. -/
private def toIndent (indent : Nat) (p : Cursor) : Cursor :=
  let spaces := (p.rest.takeWhile (· == ' ')).length
  p.skip (min spaces (indent - p.column))

private def blockBreaksFrom (indent : Nat) : Nat → Cursor → Text × Cursor
  | 0, p => ([], p)
  | steps + 1, p =>
    let p := toIndent indent p
    match p.lineEnd? with
    | some (c, p) =>
      let (more, p) := blockBreaksFrom indent steps p
      (c :: more, p)
    | none => ([], p)

/-- The empty lines up to the next line of a block scalar. -/
private def blockBreaks (indent : Nat) (p : Cursor) : Text × Cursor :=
  blockBreaksFrom indent (p.rest.length + 1) p

private def blockLeadFrom : Nat → Cursor → Text × Nat × Cursor
  | 0, p => ([], 0, p)
  | steps + 1, p =>
    let (_, p) := p.span (· == ' ')
    match p.lineEnd? with
    | some (c, q) =>
      let (more, width, q) := blockLeadFrom steps q
      (c :: more, max p.column width, q)
    | none => ([], p.column, p)

private def blockLinesFrom (isFolded : Bool) (chomping : Chomping) (indent : Nat) :
    Nat → Text → Cursor → Text × Cursor
  | 0, _, p => ([], p)
  | steps + 1, before, p =>
    let isText (p : Cursor) := p.peek.all (!isGap ·)
    let startsWithText := isText p
    let (line, p) := p.span (!isBreak ·)
    let (ending, p) := match p.lineEnd? with
      | some (c, p) => ([c], p)
      | none => ([], p)
    let (empty, p) := blockBreaks indent p
    if p.column = indent ∧ p.peek.isSome then
      let joint :=
        if isFolded && ending == ['\n'] && startsWithText && isText p then
          if empty.isEmpty then [' '] else []
        else ending
      let (rest, p) := blockLinesFrom isFolded chomping indent steps empty p
      (before ++ line ++ joint ++ rest, p)
    else
      let tail := match chomping with
        | .strip => []
        | .clip => ending
        | .keep => ending ++ empty
      (before ++ line ++ tail, p)

/-- A block scalar inside a collection with an indentation, which is -1 outside of all. -/
def blockScalar (isFolded : Bool) (outer : Int) (p : Cursor) : Except Fault (Text × Cursor) := do
  let (chomping, width, p) ← blockHead p.next
  match p.restOfLine? with
  | none => throw .malformed
  | some p =>
    let least := max (outer + 1).toNat 1
    let (before, indent, p) := match width with
      | none =>
        let (before, most, p) := blockLeadFrom (p.rest.length + 1) p
        (before, max least most, p)
      | some width =>
        let indent := least + width - 1
        let (before, p) := blockBreaks indent p
        (before, indent, p)
    if p.column = indent ∧ p.peek.isSome then
      return blockLinesFrom isFolded chomping indent (p.rest.length + 1) before p
    else match chomping with
      | .keep => return (before, p)
      | _ => return ([], p)

/-! ### Plain scalars -/

private def isFlowMark (c : Char) : Bool :=
  c == ',' || c == '[' || c == ']' || c == '\x7b' || c == '\x7d'

/-- The characters of a plain scalar up to a blank, a colon that ends a key or, inside brackets, a mark
of the collection. -/
private def plainWord (inFlow : Bool) : Text → Text
  | [] => []
  | c :: rest =>
    let endsKey := endsWord rest.head? || (inFlow && rest.head?.any isFlowMark)
    if endsWord (some c) || (c == ':' && endsKey) || (inFlow && (c == '?' || isFlowMark c)) then []
    else c :: plainWord inFlow rest

/-- The ends of lines inside a plain scalar, or none where a document ends before the next
character. -/
private def plainBreaksFrom : Nat → Cursor → Option Text × Cursor
  | 0, p => (some [], p)
  | steps + 1, p =>
    let (_, p) := p.span (· == ' ')
    match p.lineEnd? with
    | some (c, p) =>
      if p.atSeparator then (none, p)
      else
        let (more, p) := plainBreaksFrom steps p
        (more.map (c :: ·), p)
    | none => (some [], p)

/-- What stands between two words of a plain scalar, and whether a line ends there. -/
private def plainGap (p : Cursor) : Text × Bool × Cursor :=
  let (blanks, p) := p.span (· == ' ')
  match p.lineEnd? with
  | none => (blanks, false, p)
  | some (c, p) =>
    if p.atSeparator then ([], true, p)
    else
      let (more, p) := plainBreaksFrom (p.rest.length + 1) p
      ((more.map (folded c)).getD [], true, p)

private def plainFrom (inFlow : Bool) (indent : Nat) : Nat → Text → Bool → Cursor → Text × Bool × Cursor
  | 0, _, newLine, p => ([], newLine, p)
  | steps + 1, gap, newLine, p =>
    let word := if p.peek = some '#' then [] else plainWord inFlow p.rest
    if word.isEmpty then ([], newLine, p)
    else
      let (next, newLine, p) := plainGap (p.skip word.length)
      if next.isEmpty ∨ p.peek = some '#' ∨ (!inFlow ∧ p.column < indent) then
        (gap ++ word, newLine, p)
      else
        let (rest, newLine, p) := plainFrom inFlow indent steps next newLine p
        (gap ++ word ++ rest, newLine, p)

/-- A plain scalar inside a collection with an indentation, and whether it ends at the end of a
line. -/
def plainScalar (inFlow : Bool) (outer : Int) (p : Cursor) : Text × Bool × Cursor :=
  plainFrom inFlow (outer + 1).toNat (p.rest.length + 1) [] false p

end AgendaLinks.Yaml
