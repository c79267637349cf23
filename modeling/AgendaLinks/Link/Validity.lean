import AgendaLinks.Domain.Name
import AgendaLinks.Log
import AgendaLinks.Text.Quoted
import AgendaLinks.Uri.Address

/-!
Links that can be followed. Of a web link the scheme, the host and the port are checked: the host has to
be there, be a numeric address or a name, and hold no control characters, and the port has to be a
number of sixteen bits. Links of other kinds are not checked.
-/

namespace AgendaLinks.Link

open Text

/-- Why a link cannot be followed. -/
inductive Fault where
  | noScheme (link : Text)
  | noHost (link : Text)
  | badPort (link : Text)
  | badHost (hostAndPort : Text)
  | badHostChar (host : Text) (c : Char)
  | badHostEscape (host escape : Text)
  | badName (label : Text)
  | badLabel
  deriving DecidableEq, Repr

private def inMarks (t : Text) : String := String.ofList (quoted t)

private def bare (t : Text) : String := String.ofList t

/-- The message about a fault. -/
def Fault.message : Fault → String
  | noScheme t =>
    s!"Invalid URL {inMarks t}: No scheme supplied. Perhaps you meant https://{bare t}?"
  | noHost t => s!"Invalid URL {inMarks t}: No host supplied"
  | badPort t => s!"Failed to parse: {bare t}"
  | badHost t => s!"Failed to parse: {inMarks t} is not a valid host or port"
  | badHostChar host c =>
    s!"Failed to parse: Host {inMarks host} contains invalid character {inMarks [c]}"
  | badHostEscape host escape =>
    s!"Failed to parse: Host {inMarks host} contains invalid percent-encoded control character " ++
      inMarks escape
  | badName label => s!"Failed to parse: Name '{bare label}' is not a valid IDNA label"
  | badLabel => "URL has an invalid label."

/-- The scheme of a link in small letters, if it has one, and what follows its colon. -/
private def schemeOf (t : Text) : Option Text × Text :=
  match cut ':' t with
  | (name, some rest) =>
    if name.head?.any Char.isAlpha && name.all fun c => c.isAlphanum || c = '+' || c = '-' then
      (some (name.map Char.toLower), rest)
    else (none, t)
  | (_, none) => (none, t)

/-- Whether a scheme, or its absence, is that of a web link. -/
private def isWeb (scheme : Option Text) : Bool :=
  scheme = none || scheme = some "http".toList || scheme = some "https".toList

/-- The user, the host and the port of a link after its scheme. -/
private def authorityOf (t : Text) : Text :=
  match after? ['/', '/'] t with
  | some rest => rest.takeWhile fun c => !(c = '\\' || c = '/' || c = '?' || c = '#')
  | none => []

/-- Characters of a zone, which may also be written by their bytes. -/
private def isZone : Text → Bool
  | [] => true
  | '%' :: a :: b :: t => Uri.isHexDigit a && Uri.isHexDigit b && isZone t
  | c :: t => (c.isAlphanum || c = '.' || c = '_' || c = '-' || c = '~') && isZone t

/-- Four numbers of at most three digits. -/
private def isLooseAddress4 (t : Text) : Bool :=
  let numbers := pieces '.' t
  numbers.length == 4 && numbers.all fun n => n ≠ [] && n.length ≤ 3 && n.all Char.isDigit

private def isBracketed (t : Text) : Bool :=
  match cut '%' t with
  | (address, none) => Uri.isAddress6Without isLooseAddress4 address
  | (address, some zone) =>
    Uri.isAddress6Without isLooseAddress4 address && zone ≠ [] && isZone zone

/-- Whether a text can be the name of a host: a per cent sign needs two digits after it. -/
private def isHostName : Text → Bool
  | [] => true
  | '%' :: a :: b :: t => Uri.isHexDigit a && Uri.isHexDigit b && isHostName t
  | c :: t => !"[]%:/?#".toList.contains c && isHostName t

/-- The port after a host; a line feed at its very end is passed over. -/
private def portOf? (t : Text) : Option Nat :=
  let t := if t.getLast? = some '\n' then t.dropLast else t
  match t with
  | [] => some 0
  | ':' :: digits =>
    if digits.all Char.isDigit && (digits.dropWhile (· = '0')).length ≤ 5 then
      some (digits.foldl (fun n c => n * 10 + (c.toNat - 48)) 0)
    else none
  | _ => none

/-- The host and the port of a text without a user. -/
private def hostAndPort? (t : Text) : Option (Text × Nat) :=
  if t.head? = some '[' then
    match cut ']' t with
    | (inner, some rest) =>
      if isBracketed (inner.drop 1) then (portOf? rest).map fun port => (inner ++ [']'], port)
      else none
    | (_, none) => none
  else
    let (host, port) := cut ':' t
    if isHostName host then (portOf? (port.elim [] (':' :: ·))).map fun port => (host, port)
    else none

private def isControl (c : Char) : Bool := c.toNat ≤ 32 || c.toNat = 127

/-- The first control character of a host that is written by its byte. -/
private def controlEscape? : Text → Option Text
  | [] => none
  | c :: t =>
    match c, t with
    | '%', a :: b :: _ =>
      if a = '0' || a = '1' || (a = '7' && (b = 'f' || b = 'F')) then some ['%', a, b]
      else controlEscape? t
    | _, _ => controlEscape? t

private def checkHost (scheme : Option Text) (host : Text) : Except Fault Unit := do
  if let some c := host.find? isControl then throw (.badHostChar host c)
  if let some escape := controlEscape? host then throw (.badHostEscape host escape)
  if isWeb scheme && host.head? ≠ some '[' then
    if let some label := Domain.badLabel? host then throw (.badName label)

/-- Whether a link names a scheme in the form of web links. -/
private def isWebLike (t : Text) : Bool := (t.take 4).map Char.toLower = "http".toList

/-- What is wrong with a link, if anything is. -/
def check (t : Text) : Except Fault Unit := do
  let link := trimLeft t
  if link.contains ':' && !isWebLike link then return
  let whole := match schemeOf link with
    | (some _, _) => link
    | (none, _) => if link.head? = some '/' then link else '/' :: '/' :: link
  let (scheme, rest) := schemeOf whole
  let authority := authorityOf rest
  let server := ((cutLast '@' authority).map (·.2)).getD authority
  let host ← match hostAndPort? server with
    | none => throw (.badHost server)
    | some (host, port) =>
      if 65535 < port then throw (.badPort whole)
      checkHost scheme host
      pure host
  if scheme = none then throw (.noScheme link)
  if host = [] then throw (.noHost link)
  if Domain.isAscii host || isWeb scheme then
    if host.head? = some '*' || host.head? = some '.' then throw .badLabel
  else if !Domain.isAdaptable host then throw .badLabel

/-- Whether a link can be followed, with a warning when it cannot. -/
def isValid (t : Text) : Logged Bool :=
  match check t with
  | .ok () => pure true
  | .error fault => do
    let url := inMarks t
    Logged.write .warning .links s!"Skipping invalid URL {url}: {fault.message}"
    return false

end AgendaLinks.Link
