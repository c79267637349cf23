import AgendaLinks.Text.Casing
import AgendaLinks.Text.Quoted
import AgendaLinks.Uri.Address

/-!
The parts of a link: scheme, authority, path, query and fragment. A link may lack any of them; what
has no scheme or authority is all path. Square brackets may only stand around a numeric address, and
a character that stands for a delimiter may not stand in the authority.
-/

namespace AgendaLinks

/-- The parts of a link, without the delimiters between them. -/
structure Uri where
  scheme : Text := []
  authority : Text := []
  path : Text := []
  query : Text := []
  fragment : Text := []
  deriving DecidableEq, Repr

/-- Why a text has no parts. -/
inductive UriFault where
  | brackets
  | futureAddress
  | noAddress (host : Text)
  | shortAddress
  | disguised (authority : Text)
  deriving DecidableEq, Repr

/-- The message about a fault. -/
def UriFault.message : UriFault → String
  | brackets => "Invalid IPv6 URL"
  | futureAddress => "IPvFuture address is invalid"
  | noAddress host =>
    s!"{String.ofList (Text.quoted host)} does not appear to be an IPv4 or IPv6 address"
  | shortAddress => "An IPv4 address cannot be in brackets"
  | disguised authority =>
    s!"netloc '{String.ofList authority}' contains invalid characters under NFKC normalization"

namespace Uri

open Text

/-- Control characters at the start of a link are passed over, and blanks too. -/
def isLeading (c : Char) : Bool := c.toNat ≤ 32

/-- Characters that are passed over wherever they stand. -/
def isPassedOver (c : Char) : Bool := c = '\t' || c = '\r' || c = '\n'

/-- Letters of a scheme. -/
def isSchemeChar (c : Char) : Bool := c.isAlphanum || c = '+' || c = '-' || c = '.'

/-- The scheme in small letters and what follows its colon. -/
def splitScheme (t : Text) : Text × Text :=
  match cut ':' t with
  | (name, some rest) =>
    if name.head?.any Char.isAlpha && name.all isSchemeChar then (name.map Char.toLower, rest)
    else ([], t)
  | (_, none) => ([], t)

/-- The characters that end an authority. -/
def endsAuthority (c : Char) : Bool := c = '/' || c = '?' || c = '#'

/-- The authority after two slashes, and what follows it. -/
def splitAuthority (t : Text) : Text × Text :=
  match after? ['/', '/'] t with
  | some rest => rest.span (!endsAuthority ·)
  | none => ([], t)

/-- The part of an authority after the user. -/
def hostAndPort (authority : Text) : Text :=
  match cutLast '@' authority with
  | some (_, rest) => rest
  | none => authority

/-- A version, a point and the rest of an address of a kind to come. -/
private def isFutureAddress (t : Text) : Bool :=
  match cut '.' t with
  | (version, some (_ :: _)) => 1 < version.length && (version.drop 1).all isHexDigit
  | _ => false

private def checkHost (host : Text) : Except UriFault Unit :=
  if host.head? = some 'v' then
    if isFutureAddress host then .ok () else .error .futureAddress
  else if isAddress6 host then .ok ()
  else if isAddress4 host then .error .shortAddress
  else .error (.noAddress host)

/-- Square brackets have to enclose the whole host, and the host has to be a numeric address. -/
def checkBrackets (authority : Text) : Except UriFault Unit :=
  match authority.contains '[', authority.contains ']' with
  | false, false => .ok ()
  | true, true =>
    match cut '[' (hostAndPort authority) with
    | (host, none) => checkHost (cut ':' host).1
    | (before, some bracketed) =>
      if before ≠ [] then .error .brackets
      else match cut ']' bracketed with
        | (host, some (c :: _)) => if c = ':' then checkHost host else .error .brackets
        | (host, _) => checkHost host
  | _, _ => .error .brackets

/-- Characters that are read as a delimiter, or as several characters with a delimiter among them. -/
def disguises : List Nat :=
  [0x2047, 0x2048, 0x2049, 0x2100, 0x2101, 0x2105, 0x2106, 0x2a74, 0xfe13, 0xfe16, 0xfe55, 0xfe56,
    0xfe5f, 0xfe6b, 0xff03, 0xff0f, 0xff1a, 0xff1f, 0xff20]

/-- No character of an authority may stand for a delimiter. -/
def checkDisguises (authority : Text) : Except UriFault Unit :=
  if authority.any fun c => disguises.contains c.toNat then .error (.disguised authority) else .ok ()

/-- The parts of a text. -/
def ofText (t : Text) : Except UriFault Uri := do
  let t := (t.dropWhile isLeading).filter (!isPassedOver ·)
  let (scheme, t) := splitScheme t
  let (authority, t) := splitAuthority t
  checkBrackets authority
  let (t, fragment) := cut '#' t
  let (path, query) := cut '?' t
  checkDisguises authority
  return { scheme, authority, path, query := query.getD [], fragment := fragment.getD [] }

/-- The host as it is written. -/
def writtenHost (authority : Text) : Text :=
  let rest := hostAndPort authority
  match cut '[' rest with
  | (_, some bracketed) => (cut ']' bracketed).1
  | (_, none) => (cut ':' rest).1

/-- The host in small letters. The name of a zone is not part of the name of the host. -/
def host (u : Uri) : Text :=
  match cut '%' (writtenHost u.authority) with
  | (name, none) => lower name
  | (name, some zone) => lower (lower name ++ '%' :: zone)

end Uri

end AgendaLinks
