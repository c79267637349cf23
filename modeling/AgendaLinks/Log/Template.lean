import AgendaLinks.Document.Printer
import AgendaLinks.Number.Places

/-!
Messages with places for values. A place is a percent sign, perhaps a name in round brackets, marks
for the way to write, a width, a precision after a point, and the letter of a kind; two percent signs
stand for one. Values are taken in order, or by their names from one mapping.
-/

namespace AgendaLinks

namespace Template

/-- A number in a place: none, a written one, or the next value. -/
inductive Amount where
  | unset
  | fixed (n : Nat)
  | taken
  deriving DecidableEq, Repr

/-- A place for a value. -/
structure Place where
  key : Option Text := none
  left : Bool := false
  signed : Bool := false
  spaced : Bool := false
  alternate : Bool := false
  zeros : Bool := false
  width : Amount := .unset
  precision : Amount := .unset
  kind : Char := '%'
  /-- Where the letter of the kind stands in the message. -/
  index : Nat := 0

/-- Why a message cannot be written. -/
inductive Fault where
  | incomplete
  | incompleteKey
  | notMapping
  | missingKey (key : Text)
  | tooFew
  | tooMany
  | widthTooLarge
  | precisionTooLarge
  | amountNotWhole
  | amountTooLarge (precision : Bool)
  | unknownKind (kind : Char) (index : Nat)
  | notReal (kind : Char) (found : String)
  | notWhole (kind : Char) (found : String)
  | notNumber (found : String)
  | infinite
  | notANumber
  | tooLarge
  | notCharacter
  | characterRange
  | tooManyDigits

/-- What sort of failure a fault is. -/
inductive Standing where
  | mismatch
  | badValue
  | missing
  | overflow

def Fault.standing : Fault → Standing
  | incomplete | incompleteKey | widthTooLarge | precisionTooLarge | unknownKind .. | notANumber
  | tooManyDigits => .badValue
  | notMapping | tooFew | tooMany | amountNotWhole | notReal .. | notWhole .. | notNumber _
  | notCharacter => .mismatch
  | missingKey _ => .missing
  | amountTooLarge _ | infinite | tooLarge | characterRange => .overflow

def Fault.message : Fault → String
  | incomplete => "incomplete format"
  | incompleteKey => "incomplete format key"
  | notMapping => "format requires a mapping"
  | missingKey key => String.ofList (Text.quoted key)
  | tooFew => "not enough arguments for format string"
  | tooMany => "not all arguments converted during string formatting"
  | widthTooLarge => "width too big"
  | precisionTooLarge => "precision too big"
  | amountNotWhole => "* wants int"
  | amountTooLarge false => "Python int too large to convert to C ssize_t"
  | amountTooLarge true => "Python int too large to convert to C int"
  | unknownKind c index =>
    let shown := if 31 ≤ c.toNat ∧ c.toNat < 127 then c else '?'
    let code := String.ofList (Text.hexPadded 1 c.toNat)
    s!"unsupported format character '{shown}' (0x{code}) at index {index}"
  | notReal c found => s!"%{c} format: a real number is required, not {found}"
  | notWhole c found => s!"%{c} format: an integer is required, not {found}"
  | notNumber found => s!"must be real number, not {found}"
  | infinite => "cannot convert float infinity to integer"
  | notANumber => "cannot convert float NaN to integer"
  | tooLarge => "int too large to convert to float"
  | notCharacter => "%c requires int or char"
  | characterRange => "%c arg not in range(0x110000)"
  | tooManyDigits =>
    "Exceeds the limit (4300 digits) for integer string conversion; " ++
      "use sys.set_int_max_str_digits() to increase the limit"

/-- A piece of a message. -/
inductive Piece where
  | char (c : Char)
  | place (p : Place)
  /-- A place that breaks off; what its beginning asks for is looked at first. -/
  | broken (p : Place) (fault : Fault)
  /-- A place that breaks off inside the name. -/
  | brokenKey

/-! ### Reading -/

/-- How far the place that is being read has come. -/
inductive Stage where
  | outside
  | start
  | key (depth : Nat) (before : Text)
  | flags
  | width (n : Nat)
  | point
  | digits (n : Nat)
  | afterWidth
  | afterPrecision
  | kind

def onKind (index : Nat) (p : Place) (c : Char) : List Piece × Stage × Place :=
  ([.place { p with kind := c, index := index }], .outside, {})

def onSize (index : Nat) (p : Place) (c : Char) : List Piece × Stage × Place :=
  if c = 'h' ∨ c = 'l' ∨ c = 'L' then ([], .kind, p) else onKind index p c

def onPoint (index : Nat) (p : Place) (c : Char) : List Piece × Stage × Place :=
  if c = '.' then ([], .point, { p with precision := .fixed 0 }) else onSize index p c

def onWidth (index : Nat) (p : Place) (c : Char) : List Piece × Stage × Place :=
  if c = '*' then ([], .afterWidth, { p with width := .taken })
  else if c.isDigit then
    let n := c.toNat - 48
    ([], .width n, { p with width := .fixed n })
  else onPoint index p c

def onFlag (index : Nat) (p : Place) (c : Char) : List Piece × Stage × Place :=
  if c = '-' then ([], .flags, { p with left := true })
  else if c = '+' then ([], .flags, { p with signed := true })
  else if c = ' ' then ([], .flags, { p with spaced := true })
  else if c = '#' then ([], .flags, { p with alternate := true })
  else if c = '0' then ([], .flags, { p with zeros := true })
  else onWidth index p c

/-- What one character adds: pieces that are complete, and the place as far as it is read. -/
def onChar (index : Nat) (p : Place) (c : Char) : Stage → List Piece × Stage × Place
  | .outside => if c = '%' then ([], .start, {}) else ([.char c], .outside, {})
  | .start => if c = '(' then ([], .key 1 [], p) else onFlag index p c
  | .key depth before =>
    if c = ')' ∧ depth = 1 then ([], .flags, { p with key := some before.reverse })
    else
      let depth := if c = ')' then depth - 1 else if c = '(' then depth + 1 else depth
      ([], .key depth (c :: before), p)
  | .flags => onFlag index p c
  | .width n =>
    if c.isDigit then
      let d := c.toNat - 48
      if (2 ^ 63 - 1 - d) / 10 < n then ([.broken p .widthTooLarge], .outside, {})
      else ([], .width (n * 10 + d), { p with width := .fixed (n * 10 + d) })
    else onPoint index p c
  | .point =>
    if c = '*' then ([], .afterPrecision, { p with precision := .taken })
    else if c.isDigit then
      let n := c.toNat - 48
      ([], .digits n, { p with precision := .fixed n })
    else onSize index p c
  | .digits n =>
    if c.isDigit then
      let d := c.toNat - 48
      if (2 ^ 31 - 1 - d) / 10 < n then ([.broken p .precisionTooLarge], .outside, {})
      else ([], .digits (n * 10 + d), { p with precision := .fixed (n * 10 + d) })
    else onSize index p c
  | .afterWidth => onPoint index p c
  | .afterPrecision => onSize index p c
  | .kind => onKind index p c

/-- The pieces of a message from a place on, after the beginning of a place. -/
def piecesFrom (index : Nat) (stage : Stage) (p : Place) : Text → List Piece
  | [] => match stage with
    | .outside => []
    | .key .. => [.brokenKey]
    | _ => [.broken p .incomplete]
  | c :: cs =>
    let (found, stage, p) := onChar index p c stage
    found ++ piecesFrom (index + 1) stage p cs

/-- The pieces of a message. -/
def pieces (t : Text) : List Piece := piecesFrom 0 .outside {} t

/-! ### Writing -/

/-- The values of a message that are left, and the mapping of those with names. -/
structure Arguments where
  rest : List Value
  named : Option (List (Value × Value)) := none

/-- The values of a message; a single mapping that is not empty gives the values their names. -/
def Arguments.ofList : List Value → Arguments
  | [.mapping (e :: es)] => ⟨[.mapping (e :: es)], some (e :: es)⟩
  | values => ⟨values, none⟩

/-- The first of the values that are left, and the others. -/
def Arguments.next : Arguments → Except Fault (Value × Arguments)
  | ⟨v :: rest, named⟩ => .ok (v, ⟨rest, named⟩)
  | ⟨[], _⟩ => .error .tooFew

private def whole? : Value → Option Int
  | .int i => some i
  | .bool b => some (if b then 1 else 0)
  | _ => none

private def takeKey (p : Place) (args : Arguments) : Except Fault Arguments :=
  match p.key, args.named with
  | none, _ => .ok args
  | some _, none => .error .notMapping
  | some key, some entries =>
    match Value.lookup? key entries with
    | some v => .ok { args with rest := [v] }
    | none => .error (.missingKey key)

/-- A width; a negative one puts the value to the left. -/
private def takeWidth (p : Place) (args : Arguments) :
    Except Fault (Option Nat × Bool × Arguments) := do
  match p.width with
  | .unset => return (none, p.left, args)
  | .fixed n => return (some n, p.left, args)
  | .taken =>
    let (v, args) ← args.next
    match whole? v with
    | none => throw .amountNotWhole
    | some i =>
      if i < -(2 ^ 63) ∨ 2 ^ 63 ≤ i then throw (.amountTooLarge false)
      return (some i.natAbs, p.left || i < 0, args)

private def takePrecision (p : Place) (args : Arguments) :
    Except Fault (Option Nat × Arguments) := do
  match p.precision with
  | .unset => return (none, args)
  | .fixed n => return (some n, args)
  | .taken =>
    let (v, args) ← args.next
    match whole? v with
    | none => throw .amountNotWhole
    | some i =>
      if i < -(2 ^ 31) ∨ 2 ^ 31 ≤ i then throw (.amountTooLarge true)
      return (some i.toNat, args)

/-- A value in ASCII characters. -/
private def asciiShown (v : Value) : Text :=
  v.shown.flatMap fun c =>
    let n := c.toNat
    if n < 128 then [c]
    else if n < 0x100 then '\\' :: 'x' :: Text.hexPadded 2 n
    else if n < 0x10000 then '\\' :: 'u' :: Text.hexPadded 4 n
    else '\\' :: 'U' :: Text.hexPadded 8 n

private def truncated (c : Char) : Value → Except Fault Int
  | .float (.finite s m e) =>
    let size : Int := if 0 ≤ e then m * 2 ^ e.toNat else (m / 2 ^ (-e).toNat : Nat)
    .ok (if s then -size else size)
  | .float (.infinite _) => .error .infinite
  | .float .notNumber => .error .notANumber
  | v => match whole? v with
    | some i => .ok i
    | none => .error (.notReal c v.kindName)

private def toDouble (v : Value) : Except Fault Double :=
  match v with
  | .float d => .ok d
  | v => match whole? v with
    | none => .error (.notNumber v.kindName)
    | some i =>
      match Double.ofNat i.natAbs with
      | .infinite _ => .error .tooLarge
      | d => .ok (if i < 0 then d.neg else d)

/-- A value before it is put into its width: a sign, the mark of a base, and the rest. -/
structure Body where
  sign : Text := []
  mark : Text := []
  rest : Text

private def signOf (p : Place) (negative : Bool) : Text :=
  if negative then ['-'] else if p.signed then ['+'] else if p.spaced then [' '] else []

private def wholeBody (p : Place) (precision : Option Nat) (base : Nat) (mark : Text) (i : Int) :
    Body :=
  let digits := Nat.toDigits base i.natAbs
  let zeros := precision.getD 0 - digits.length
  { sign := signOf p (i < 0), mark := if p.alternate then mark else []
    rest := List.replicate zeros '0' ++ digits }

private def textBody (precision : Option Nat) (t : Text) : Body :=
  { rest := (precision.map t.take).getD t }

private def floatBody (p : Place) (style : Double.Style) (precision : Option Nat) (d : Double) : Body :=
  match d.written style (precision.getD 6) p.alternate with
  | '-' :: rest => { sign := signOf p true, rest := rest }
  | rest => { sign := signOf p false, rest := rest }

private def Body.upper (b : Body) : Body :=
  { b with mark := b.mark.map Char.toUpper, rest := b.rest.map Char.toUpper }

private def character : Value → Except Fault Char
  | .text [c] => .ok c
  | v => match whole? v with
    | none => .error .notCharacter
    | some i => if 0 ≤ i ∧ i < 0x110000 then .ok (Char.ofNat i.toNat) else .error .characterRange

/-- How a value is written in a place, and whether zeros may fill the width. -/
def body (p : Place) (precision : Option Nat) (v : Value) : Except Fault (Body × Bool) := do
  let shown (t : Value → Text) : Except Fault (Body × Bool) :=
    if v.writable then .ok (textBody precision (t v), false) else .error .tooManyDigits
  let based (base : Nat) (mark : String) : Except Fault (Body × Bool) :=
    match whole? v with
    | some i => .ok (wholeBody p precision base mark.toList i, true)
    | none => .error (.notWhole p.kind v.kindName)
  let float (style : Double.Style) : Except Fault (Body × Bool) := do
    return (floatBody p style precision (← toDouble v), true)
  let upper (x : Except Fault (Body × Bool)) := x.map fun (b, zeros) => (b.upper, zeros)
  match p.kind with
  | 's' => shown Value.plain
  | 'r' => shown Value.shown
  | 'a' => shown asciiShown
  | 'd' | 'i' | 'u' =>
    let i ← truncated p.kind v
    if 10 ^ 4300 ≤ i.natAbs then throw .tooManyDigits
    return (wholeBody p precision 10 [] i, true)
  | 'o' => based 8 "0o"
  | 'x' => based 16 "0x"
  | 'X' => upper (based 16 "0x")
  | 'e' => float .scientific
  | 'f' => float .fixed
  | 'g' => float .general
  | 'E' => upper (float .scientific)
  | 'F' => upper (float .fixed)
  | 'G' => upper (float .general)
  | 'c' => return ({ rest := [← character v] }, false)
  | c => throw (.unknownKind c p.index)

/-- A body in a width: zeros stand after the sign, blanks before it or after the end. -/
def Body.filled (b : Body) (width : Nat) (left zeros : Bool) : Text :=
  let lacking := width - (b.sign ++ b.mark ++ b.rest).length
  if left then b.sign ++ b.mark ++ b.rest ++ List.replicate lacking ' '
  else if zeros then b.sign ++ b.mark ++ List.replicate lacking '0' ++ b.rest
  else List.replicate lacking ' ' ++ b.sign ++ b.mark ++ b.rest

/-- What is written in a place, and the values that are left. -/
def writePlace (p : Place) (args : Arguments) : Except Fault (Text × Arguments) := do
  let args ← takeKey p args
  let (width, left, args) ← takeWidth p args
  let (precision, args) ← takePrecision p args
  if p.kind = '%' then return (['%'], args)
  let (v, args) ← args.next
  let (b, zeros) ← body p precision v
  return (b.filled (width.getD 0) left (zeros && p.zeros), args)

/-- The text of pieces with values in its places. -/
def writePieces : List Piece → Arguments → Except Fault Text
  | [], args => if args.rest.isEmpty || args.named.isSome then .ok [] else .error .tooMany
  | .char c :: rest, args => (c :: ·) <$> writePieces rest args
  | .place p :: rest, args => do
    let (t, args) ← writePlace p args
    return t ++ (← writePieces rest args)
  | .broken p fault :: _, args => do
    let args ← takeKey p args
    let (_, _, args) ← takeWidth p args
    let _ ← takePrecision p args
    throw fault
  | .brokenKey :: _, args => .error (if args.named.isSome then .incompleteKey else .notMapping)

end Template

/-- A message with values in its places; a message without values is taken as it is. -/
def messageText (template : Text) (values : List Value) : Except Template.Fault Text :=
  if values.isEmpty then .ok template
  else Template.writePieces (Template.pieces template) (.ofList values)

end AgendaLinks
