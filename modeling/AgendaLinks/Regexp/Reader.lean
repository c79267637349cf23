import AgendaLinks.Number.Whole
import AgendaLinks.Regexp.Syntax
import AgendaLinks.Regexp.Token
import AgendaLinks.Text.Identifier
import AgendaLinks.Text.Names

/-!
Reading the text of a regular expression into its tree. The reader keeps the tokens that are left,
the groups opened so far and the options of the whole expression; a flaw is found at the first place
where reading cannot go on.
-/

namespace AgendaLinks.Regexp

/-- Options that change the meaning of the parts written under them. -/
structure Options where
  ignoreCase : Bool := false
  everyLine : Bool := false
  dotAll : Bool := false
  spaced : Bool := false
  ascii : Bool := false
  deriving DecidableEq, Repr

/-- What a reader knows at a place of the text. -/
structure Reading where
  rest : List Token
  size : Nat
  /-- The widths of the groups in order of their opening; an open group has none yet. -/
  groups : List (Option Width) := []
  names : List (Text × Nat) := []
  /-- The number of groups before the outermost lookbehind that is being read. -/
  behindFrom : Option Nat := none
  /-- Groups that conditions ask for by number, with the first place of each. -/
  asked : List (Nat × Nat) := []
  options : Options := {}
  unicodeAsked : Bool := false
  template : Bool := false

/-- A reader of a part of the text. -/
abbrev Reader := StateT Reading (Except Fault)

namespace Reader

def place : Reader Nat := do
  let r ← get
  return match r.rest with
    | [] => r.size
    | t :: _ => t.place

def failAt {α : Type} (flaw : Flaw) (place : Nat) : Reader α :=
  throw (.flawed flaw (some place))

/-- Fails so many characters before the next token. -/
def fail {α : Type} (flaw : Flaw) (back : Nat) : Reader α := do
  failAt flaw ((← place) - back)

/-- The next token, if there is one. -/
def peek : Reader (Option Sign) := return (← get).rest.head?.map Token.sign

/-- Goes on to tokens, of which the first has to be whole. -/
def goTo (rest : List Token) : Reader Unit := do
  match rest with
  | ⟨.stray, place⟩ :: _ => failAt .strayEscape place
  | _ => modify ({ · with rest })

/-- The next token, if there is one, taken away. -/
def next : Reader (Option Sign) := do
  match (← get).rest with
  | [] => return none
  | t :: rest =>
    goTo rest
    return some t.sign

/-- Whether the next token is a given character; it is taken away then. -/
def accept (c : Char) : Reader Bool := do
  match (← get).rest with
  | t :: rest =>
    if t.sign = .plain c then
      goTo rest
      return true
    else return false
  | [] => return false

/-- At most so many of the next characters, as long as they pass a test. -/
def takeWhile (test : Char → Bool) : Nat → Reader Text
  | 0 => return []
  | n + 1 => do
    match ← peek with
    | some (.plain c) =>
      if test c then
        let _ ← next
        return c :: (← takeWhile test n)
      else return []
    | _ => return []

/-- The text up to a terminator, which is taken away; the text must not be empty. -/
def takeUntil (terminator : Char) (what : String) : Nat → Text → Reader Text
  | 0, _ => fail (.missingName what) 0
  | n + 1, done => do
    match ← next with
    | none =>
      if done.isEmpty then fail (.missingName what) 0
      else fail (.unterminatedName terminator) done.length
    | some sign =>
      if sign = .plain terminator then
        if done.isEmpty then fail (.missingName what) 1 else return done
      else takeUntil terminator what n (done ++ sign.text)

def name (terminator : Char) (what : String) : Reader Text := do
  takeUntil terminator what ((← get).rest.length + 1) []

def checkName (name : Text) : Reader Unit := do
  unless Text.isIdentifier name do fail (.badGroupName name) (name.length + 1)

def isHex (c : Char) : Bool :=
  c.isDigit || ('a' ≤ c && c ≤ 'f') || ('A' ≤ c && c ≤ 'F')

def isOctal (c : Char) : Bool := '0' ≤ c && c ≤ '7'

def isLetter (c : Char) : Bool := ('a' ≤ c && c ≤ 'z') || ('A' ≤ c && c ≤ 'Z')

def value (c : Char) : Nat :=
  if c.isDigit then c.toNat - 48 else if 'a' ≤ c then c.toNat - 87 else c.toNat - 55

def number (base : Nat) (digits : Text) : Nat := ofDigits base (digits.map value)

/-- The number of hexadecimal digits that the escape with a letter takes. -/
def hexWidth? : Char → Option Nat
  | 'x' => some 2
  | 'u' => some 4
  | 'U' => some 8
  | _ => none

/-- The code point of an escape that means the same inside and outside of a set: digits of a fixed
width, a name in braces, or a character that is no letter. -/
def commonEscape (c : Char) : Reader Nat := do
  match hexWidth? c with
  | some width =>
    let digits ← takeWhile isHex width
    let escape := '\\' :: c :: digits
    if digits.length < width then fail (.incompleteEscape escape) escape.length
    let code := number 16 digits
    if 0x110000 ≤ code then fail (.badEscape escape) escape.length
    return code
  | none =>
    if c = 'N' then
      unless ← accept '\x7b' do fail .missingBrace 0
      let name ← name '\x7d' "character name"
      match Text.namedCode? name with
      | some code => return code
      | none => fail (.unknownCharacterName name) (name.length + 4)
    else if isLetter c || c.isDigit then fail (.badEscape ['\\', c]) 2
    else return c.toNat

def controlEscape? : Char → Option Nat
  | 'a' => some 7
  | 'b' => some 8
  | 'f' => some 12
  | 'n' => some 10
  | 'r' => some 13
  | 't' => some 9
  | 'v' => some 11
  | '\\' => some 92
  | _ => none

def classEscape? : Char → Option Member
  | 'd' => some (.named .digit false)
  | 'D' => some (.named .digit true)
  | 's' => some (.named .space false)
  | 'S' => some (.named .space true)
  | 'w' => some (.named .word false)
  | 'W' => some (.named .word true)
  | _ => none

def octal (digits : Text) : Reader Nat := do
  let code := number 8 digits
  let escape := '\\' :: digits
  if 0o377 < code then fail (.octalTooLarge escape) escape.length
  return code

/-- The member that an escape in a set stands for. -/
def memberEscape (c : Char) : Reader Member := do
  match controlEscape? c, classEscape? c with
  | some code, _ => return .code code
  | none, some member => return member
  | none, none =>
    if isOctal c then return .code (← octal (c :: (← takeWhile isOctal 2)))
    else return .code (← commonEscape c)

def caseRule (options : Options) : CaseRule :=
  if options.ignoreCase then if options.ascii then .ascii else .unicode else .exact

def symbol (options : Options) (symbol : Symbol) : Tree :=
  .symbol symbol (caseRule options) options.ascii

def literal (options : Options) (code : Nat) : Tree :=
  symbol options (.set false [.code code])

def isClosed (group : Nat) : Reader Bool := do
  return match (← get).groups[group - 1]? with
    | some (some _) => group != 0
    | _ => false

def checkBehind (group : Nat) : Reader Unit := do
  match (← get).behindFrom with
  | none => return
  | some first =>
    unless ← isClosed group do fail .openGroup 0
    if first ≤ group then fail .groupInLookbehind 0

/-- An escape with digits: an octal number of three digits, or else the text of a group again. -/
def digitEscape (options : Options) (c : Char) : Reader Tree := do
  let second ← takeWhile Char.isDigit 1
  let third ← if isOctal c && second.any isOctal then takeWhile isOctal 1 else pure []
  let digits := c :: second ++ third
  if digits.length = 3 then return literal options (← octal digits)
  let group := number 10 digits
  if (← get).groups.length < group then fail (.noSuchGroup group) digits.length
  unless ← isClosed group do fail .openGroup (digits.length + 1)
  checkBehind group
  return .again group (caseRule options)

def placeEscape? (options : Options) : Char → Option Place
  | 'A' => some .textStart
  | 'Z' => some .textEnd
  | 'b' => some (.wordEdge options.ascii)
  | 'B' => some (.noWordEdge options.ascii)
  | _ => none

/-- The part that an escape outside of a set stands for. -/
def escape (options : Options) (c : Char) : Reader Tree := do
  match placeEscape? options c, classEscape? c, controlEscape? c with
  | some place, _, _ => return .place place
  | none, some member, _ => return symbol options (.set false [member])
  | none, none, some code => return literal options code
  | none, none, none =>
    if c = '0' then return literal options (number 8 (c :: (← takeWhile isOctal 2)))
    else if c.isDigit then digitEscape options c
    else return literal options (← commonEscape c)

/-- One end of a span in a set, with its text. -/
def setSign (sign : Sign) : Reader Member := do
  match sign with
  | .plain c => return .code c.toNat
  | .escaped c => memberEscape c
  | .stray => return .code 92

/-- The members of a set that was opened at a place, up to the bracket that closes it. -/
def setMembers (opened : Nat) : Nat → List Member → Reader (List Member)
  | 0, _ => failAt .unterminatedSet opened
  | n + 1, done => do
    match ← next with
    | none => failAt .unterminatedSet opened
    | some sign =>
      if sign = .plain ']' ∧ done ≠ [] then return done
      let first ← setSign sign
      unless ← accept '-' do return ← setMembers opened n (done ++ [first])
      match ← next with
      | none => failAt .unterminatedSet opened
      | some sign' =>
        if sign' = .plain ']' then return done ++ [first, .code '-'.toNat]
        let last ← setSign sign'
        let bad := fail (.badSpan sign.text sign'.text) (sign.text.length + 1 + sign'.text.length)
        match first, last with
        | .code low, .code high =>
          if high < low then bad else setMembers opened n (done ++ [.span low high])
        | _, _ => bad

def set (options : Options) (opened : Nat) : Reader Tree := do
  let negated ← accept '^'
  let members ← setMembers opened ((← get).rest.length + 1) []
  return symbol options (.set negated members)

/-- A number of repetitions, if digits are given. -/
def repeatCount? (digits : Text) : Reader (Option Nat) := do
  if digits.isEmpty then return none
  if 4300 < digits.length then throw (.tooManyDigits digits.length)
  let n := number 10 digits
  if 4294967295 ≤ n then throw .repeatTooLarge
  return some n

/-- Least and greatest number of repetitions written in braces after the opening one, if they are. -/
def braces? (after : Nat) : Reader (Option (Nat × Option Nat)) := do
  if (← peek) = some (.plain '\x7d') then return none
  let saved := (← get).rest
  let all := saved.length
  let low ← takeWhile Char.isDigit all
  let high ← if ← accept ',' then takeWhile Char.isDigit all else pure low
  if ← accept '\x7d' then
    let least := (← repeatCount? low).getD 0
    let most ← repeatCount? high
    if most.any (· < least) then failAt .repeatOrder after
    return some (least, most)
  else
    goTo saved
    return none

def optionLetters : List Char := ['i', 'L', 'm', 's', 'x', 'a', 't', 'u']

def kindLetters : List Char := ['a', 'L', 'u']

def optionAfter (sign : Sign) (otherwise : Flaw) : Reader Char := do
  match sign with
  | .plain c =>
    if optionLetters.contains c then return c
    let letter := Text.isWord c && Text.isIdentifier [c] && c != '_'
    fail (if letter then .unknownOption else otherwise) 1
  | sign => fail otherwise sign.text.length

/-- Letters of options to turn on, and the character that ends them. -/
def optionsOn : Nat → Char → List Char → Reader (List Char × Char)
  | 0, c, on => return (on, c)
  | n + 1, c, on => do
    if c = 'L' then fail .localeOption 0
    let on := c :: on
    if kindLetters.contains c && (on.any fun d => kindLetters.contains d && d != c) then
      fail .optionsClash 0
    match ← next with
    | none => fail .optionsCutShort 0
    | some sign =>
      match sign with
      | .plain ')' => return (on, ')')
      | .plain '-' => return (on, '-')
      | .plain ':' => return (on, ':')
      | sign => optionsOn n (← optionAfter sign .optionsCutShort) on

/-- Letters of options to turn off, up to the colon that ends them. -/
def optionsOff : Nat → Char → List Char → Reader (List Char)
  | 0, _, off => return off
  | n + 1, c, off => do
    if kindLetters.contains c then fail .kindOff 0
    let off := c :: off
    match ← next with
    | none => fail .missingColon 0
    | some sign =>
      if sign = .plain ':' then return off
      optionsOff n (← optionAfter sign .missingColon) off

/-- Letters of options to turn off behind a minus, if the letters before end with one. -/
def optionsBehind (stop : Char) (n : Nat) : Reader (List Char) := do
  if stop = '-' then
    match ← next with
    | none => fail .missingOption 0
    | some sign => optionsOff n (← optionAfter sign .missingOption) []
  else return []

/-- Letters of options after the question mark of a group, the first of them given: for the whole
expression, or to turn on and off inside the group. -/
def optionChange (first : Char) : Reader (List Char × Option (List Char)) := do
  let all := (← get).rest.length + 1
  let (on, stop) ← if first = '-' then pure ([], '-') else optionsOn all first []
  if stop = ')' then return (on, none)
  if on.contains 't' then fail (.optionForWhole true) 1
  let off ← optionsBehind stop all
  if off.contains 't' then fail (.optionForWhole false) 1
  if on.any off.contains then fail .onAndOff 1
  return (on, some off)

def change (options : Options) (on off : List Char) : Options :=
  { ignoreCase := (options.ignoreCase || on.contains 'i') && !off.contains 'i'
    everyLine := (options.everyLine || on.contains 'm') && !off.contains 'm'
    dotAll := (options.dotAll || on.contains 's') && !off.contains 's'
    spaced := (options.spaced || on.contains 'x') && !off.contains 'x'
    ascii := on.contains 'a' || (options.ascii && !on.contains 'u') }

/-- What a part is to a repetition written after it. -/
inductive Role where
  | place
  | repetition
  | other
  deriving DecidableEq

/-- A part that was read, and what it is to a repetition. -/
structure Part where
  role : Role
  tree : Tree

def joined : List Part → Tree
  | [] => .empty
  | [p] => p.tree
  | p :: ps => .seq p.tree (joined ps)

/-- Skips a comment up to its end. -/
def skipTo (stop : Char) : Nat → Reader Bool
  | 0 => return false
  | n + 1 => do
    match ← next with
    | none => return false
    | some sign => if sign = .plain stop then return true else skipTo stop n

def widthOf (tree : Tree) : Reader Width := do
  let groups := (← get).groups
  return tree.width fun g => ((groups[g - 1]?).getD none).getD ⟨0, 0⟩

/-- Opens a group and gives its number. -/
def openGroup (name : Option Text) : Reader Nat := do
  let group := (← get).groups.length + 1
  modify fun r => { r with groups := r.groups ++ [none] }
  match name with
  | none => return group
  | some name =>
    match (← get).names.lookup name with
    | some former => fail (.redefinedGroup name group former) (name.length + 1)
    | none =>
      modify fun r => { r with names := (name, group) :: r.names }
      return group

def closeGroup (group : Nat) (body : Tree) : Reader Unit := do
  let width ← widthOf body
  modify fun r => { r with groups := r.groups.set (group - 1) (some width) }

def expectEnd (opened : Nat) : Reader Unit := do
  unless ← accept ')' do failAt .unterminatedGroup opened

def setBehind (first : Option Nat) : Reader Unit := modify ({ · with behindFrom := first })

/-- The group that a condition asks for. -/
def conditionGroup : Reader Nat := do
  let asked ← name ')' "group name"
  let back := asked.length + 1
  if Text.isIdentifier asked then
    match (← get).names.lookup asked with
    | some group => return group
    | none => fail (.unknownGroupName asked) back
  else
    match Text.wholeNumber? asked with
    | some (.ofNat 0) => fail .groupZero back
    | some (.ofNat group) =>
      if 1073741823 ≤ group then fail (.noSuchGroup group) back
      let place := (← place) - back
      modify fun r =>
        if (r.asked.lookup group).isSome then r else { r with asked := r.asked ++ [(group, place)] }
      return group
    | _ => fail (.badGroupName asked) back

/-- The text of a named group again. -/
def namedAgain (options : Options) : Reader Tree := do
  let name ← name ')' "group name"
  checkName name
  match (← get).names.lookup name with
  | none => fail (.unknownGroupName name) (name.length + 1)
  | some group =>
    unless ← isClosed group do fail .openGroup (name.length + 1)
    checkBehind group
    return .again group (caseRule options)

/-- What a group turned out to be when its opening was read. -/
inductive Opening where
  | comment
  | part (tree : Tree)
  | capture (name : Option Text)
  | plain (options : Options)
  | atomic
  | look (behind negated : Bool)
  | condition
  | wholeOptions

/-- The sign after a question mark. -/
def groupSign : Reader Sign := do
  match ← next with
  | none => fail .endOfPattern 0
  | some sign => return sign

/-- Options for the whole expression, which may only stand at its start. -/
def setWhole (on : List Char) : Reader Unit :=
  modify fun r => { r with
    options := { change r.options on [] with ascii := r.options.ascii || on.contains 'a' }
    unicodeAsked := r.unicodeAsked || on.contains 'u'
    template := r.template || on.contains 't' }

def opening (options : Options) (opened : Nat) : Reader Opening := do
  unless ← accept '?' do return .capture none
  match ← groupSign with
  | .plain 'P' =>
    if ← accept '<' then
      let name ← name '>' "group name"
      checkName name
      return .capture (some name)
    if ← accept '=' then return .part (← namedAgain options)
    let sign ← groupSign
    fail (.unknownExtension ('P' :: sign.text)) (sign.text.length + 2)
  | .plain ':' => return .plain options
  | .plain '#' =>
    unless ← skipTo ')' ((← get).rest.length + 1) do failAt .unterminatedComment opened
    return .comment
  | .plain '=' => return .look false false
  | .plain '!' => return .look false true
  | .plain '<' =>
    match ← groupSign with
    | .plain '=' => return .look true false
    | .plain '!' => return .look true true
    | sign => fail (.unknownExtension ('<' :: sign.text)) (sign.text.length + 2)
  | .plain '(' => return .condition
  | .plain '>' => return .atomic
  | .plain c =>
    if c = '-' || optionLetters.contains c then
      match ← optionChange c with
      | (on, none) =>
        setWhole on
        return .wholeOptions
      | (on, some off) => return .plain (change options on off)
    else fail (.unknownExtension [c]) 2
  | sign => fail (.unknownExtension sign.text) (sign.text.length + 1)

/-- The characters that are passed over between parts, if the options say so. -/
def blanks : List Char := [' ', '\t', '\n', '\r', '\x0b', '\x0c']

/-- The repetition that a sign asks for, if it is one. -/
def repetition? (sign : Sign) (after : Nat) : Reader (Option (Nat × Option Nat)) := do
  match sign with
  | .plain '?' => return some (0, some 1)
  | .plain '*' => return some (0, none)
  | .plain '+' => return some (1, none)
  | .plain '\x7b' => braces? after
  | _ => return none

/-- The sign after a repetition that tells how much it takes. -/
def greed : Reader Greed := do
  if ← accept '?' then return .lazy
  if ← accept '+' then return .possessive
  return .greedy

/-- The last part repeated, with the sign for its greed. -/
def repeatLast (least : Nat) (most : Option Nat) (after : Nat) (done : List Part) :
    Reader (List Part) := do
  match done with
  | [] => failAt .nothingToRepeat (after - 1)
  | last :: before =>
    match last.role with
    | .place => failAt .nothingToRepeat (after - 1)
    | .repetition => failAt .repeatTwice (after - 1)
    | .other => return ⟨.repetition, .repeated (← greed) least most last.tree⟩ :: before

/-- A part that is one sign by itself. -/
def simplePart (options : Options) (sign : Sign) (place : Nat) : Reader Part := do
  match sign with
  | .escaped c =>
    let tree ← escape options c
    return match tree with
      | .place _ => ⟨.place, tree⟩
      | _ => ⟨.other, tree⟩
  | .plain '[' => return ⟨.other, ← set options place⟩
  | .plain '.' => return ⟨.other, symbol options (.any options.dotAll)⟩
  | .plain '^' => return ⟨.place, .place (if options.everyLine then .lineStart else .textStart)⟩
  | .plain '$' => return ⟨.place, .place (if options.everyLine then .lineEnd else .lastLineEnd)⟩
  | .plain c => return ⟨.other, literal options c.toNat⟩
  | .stray => return ⟨.other, .empty⟩

mutual

/-- Alternatives up to the end of a group or of the text. -/
def alternatives : Nat → Options → Bool → Reader Tree
  | 0, _, _ => throw .kindsClash
  | fuel + 1, options, outermost => do
    let head ← parts fuel options outermost outermost []
    alternativesAfter fuel options outermost head

def alternativesAfter : Nat → Options → Bool → Tree → Reader Tree
  | 0, _, _, _ => throw .kindsClash
  | fuel + 1, options, outermost, head => do
    unless ← accept '|' do return head
    let r ← get
    let options := if outermost then r.options else options
    let second ← parts fuel options false outermost []
    return .either head (← alternativesAfter fuel options outermost second)

/-- Parts one after the other, the last read first. Only at the very start of the text may options for
the whole expression stand. -/
def parts : Nat → Options → Bool → Bool → List Part → Reader Tree
  | 0, _, _, _, _ => throw .kindsClash
  | fuel + 1, options, start, outermost, done => do
    match ← peek with
    | none | some (.plain '|') | some (.plain ')') => return joined done.reverse
    | some sign =>
      let place ← place
      let _ ← next
      if options.spaced && sign = .plain '#' then
        let _ ← skipTo '\n' ((← get).rest.length + 1)
        parts fuel options start outermost done
      else if options.spaced && blanks.any (sign = .plain ·) then parts fuel options start outermost done
      else if sign = .plain '(' then
        let (part?, options) ← group fuel options (start && done.isEmpty) place (← opening options place)
        parts fuel options start outermost (part?.toList ++ done)
      else
        match ← repetition? sign (place + 1) with
        | some (least, most) =>
          parts fuel options start outermost (← repeatLast least most (place + 1) done)
        | none => parts fuel options start outermost ((← simplePart options sign place) :: done)

/-- The part that a group is, if it is one, after its opening, and the options from there on. -/
def group : Nat → Options → Bool → Nat → Opening → Reader (Option Part × Options)
  | 0, _, _, _, _ => throw .kindsClash
  | fuel + 1, options, first, place, opened => do
    match opened with
    | .comment => return (none, options)
    | .wholeOptions =>
      unless first do failAt .lateOptions place
      return (none, (← get).options)
    | .part tree => return (some ⟨.other, tree⟩, options)
    | .capture name =>
      let group ← openGroup name
      let body ← alternatives fuel options false
      expectEnd place
      closeGroup group body
      return (some ⟨.other, .capture group body⟩, options)
    | .plain inner =>
      let body ← alternatives fuel inner false
      expectEnd place
      return (some ⟨.other, body⟩, options)
    | .atomic =>
      let body ← alternatives fuel options false
      expectEnd place
      return (some ⟨.other, .atomic body⟩, options)
    | .look behind negated =>
      let r ← get
      if behind && r.behindFrom.isNone then setBehind (some (r.groups.length + 1))
      let body ← alternatives fuel options false
      if behind then setBehind r.behindFrom
      expectEnd place
      let width ← widthOf body
      let tree := if behind then Tree.behind negated width body else .ahead negated body
      return (some ⟨.other, tree⟩, options)
    | .condition =>
      let group ← conditionGroup
      checkBehind group
      let yes ← parts fuel options false false []
      let no ← if ← accept '|' then parts fuel options false false [] else pure .empty
      if (← peek) = some (.plain '|') then fail .tooManyBranches 0
      expectEnd place
      return (some ⟨.other, .given group yes no⟩, options)

end

/-- Checks the widths of lookbehinds, in the order in which the parts are written. -/
def checkTree (template : Bool) : Tree → Except Fault Unit
  | .seq a b | .either a b | .given _ a b => do
    checkTree template a
    checkTree template b
  | .capture _ a | .atomic a | .ahead _ a => checkTree template a
  | .behind _ width a => do
    if 4294967295 < width.least then throw (.flawed .lookbehindTooLong none)
    if width.least ≠ width.most then throw (.flawed .lookbehindWidth none)
    checkTree template a
  | .repeated greed _ _ a => do
    if template then
      throw (.flawed (.templateRepeat (match greed with
        | .greedy => "MAX_REPEAT"
        | .lazy => "MIN_REPEAT"
        | .possessive => "POSSESSIVE_REPEAT")) none)
    checkTree template a
  | _ => return

/-- The tree of a whole text, read to its end. -/
def whole : Reader Tree := do
  let r ← get
  goTo r.rest
  let tree ← alternatives (4 * r.rest.length + 8) {} true
  let r ← get
  if r.options.ascii && r.unicodeAsked then throw .kindsClash
  unless r.rest.isEmpty do fail .unbalanced 0
  for (group, place) in r.asked do
    if r.groups.length < group then failAt (.noSuchGroup group) place
  checkTree r.template tree
  return tree

end Reader

/-- The regular expression that a text writes, or its first fault. -/
def compile (source : Text) : Except Fault Regexp := do
  let (tree, _) ← Reader.whole.run { rest := tokensFrom 0 source, size := source.length }
  return ⟨source, tree⟩

end AgendaLinks.Regexp
