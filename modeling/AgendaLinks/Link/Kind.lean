import AgendaLinks.Text.Classes
import AgendaLinks.Uri.Query
import AgendaLinks.Uri.Basic

/-!
Kinds of links. The host decides whether a link leads to a meeting; a few hosts are passed over
altogether. A meeting has a score for how surely its link is the one to join with: the highest for the
join links of a service with a password among their parameters.
-/

namespace AgendaLinks.Link

open Text

/-- What a link leads to. -/
inductive Kind where
  | meeting
  | other
  deriving DecidableEq, Repr

def Kind.name : Kind → String
  | meeting => "meeting"
  | other => "other"

/-- Whether a host is a domain or lies below it. -/
def isWithin (domain host : Text) : Bool := host == domain || endsWith host ('.' :: domain)

def isZoomHost (host : Text) : Bool :=
  isWithin "zoom.us".toList host || isWithin "zoom.com".toList host

def isSlackHost (host : Text) : Bool := isWithin "slack.com".toList host

def isMeetHost (host : Text) : Bool := host == "meet.google.com".toList

def isWherebyHost (host : Text) : Bool := host == "whereby.com".toList

/-- Hosts whose links are passed over. -/
def isDroppedHost (host : Text) : Bool :=
  host == "tel.meet".toList || host == "www.getclockwise.com".toList

/-- The kind of the links of a host with a path, or none if they are passed over. -/
def kindOf (host path : Text) : Option Kind :=
  if isSlackHost host && startsWith path "/team/".toList then none
  else if isDroppedHost host then none
  else if isZoomHost host || isMeetHost host || isWherebyHost host then some .meeting
  else some .other

/-- The kind of a link. -/
def kind? (t : Text) : Except UriFault (Option Kind) :=
  (Uri.ofText t).map fun u => kindOf u.host u.path

/-- Paths with which a Zoom meeting is joined or started. -/
def isZoomJoinPath (path : Text) : Bool :=
  let endsWord (rest : Text) := !rest.head?.any isWord
  (after? "/j/".toList path).isSome || (after? "/s/".toList path).isSome ||
    (after? "/wc/join".toList path).any endsWord || (after? "/wc/start".toList path).any endsWord ||
    path == "/join".toList || path == "/start".toList

/-- Paths that are a code of at least three words of small letters. -/
def isMeetCodePath : Text → Bool
  | '/' :: code =>
    let words := pieces '-' code
    3 ≤ words.length && words.all fun w => w ≠ [] && w.all fun c => 'a' ≤ c && c ≤ 'z'
  | _ => false

/-- Paths that are the name of a room. -/
def isRoomPath : Text → Bool
  | '/' :: room =>
    match cut '/' room with
    | ([], _) => false
    | (_, none) | (_, some []) => true
    | _ => false
  | _ => false

/-- Whether a query has the parameter of a password. -/
def hasPassword (query : Text) : Bool := (Uri.readQuery query).any fun p => p.1 == "pwd".toList

/-- How surely the link with some parts is the one to join a meeting with; zero for other links. -/
def scoreOf (u : Uri) : Nat :=
  if isZoomHost u.host then
    if isZoomJoinPath u.path then if hasPassword u.query then 10 else 9 else 1
  else if isMeetHost u.host then if isMeetCodePath u.path then 9 else 1
  else if isWherebyHost u.host then if isRoomPath u.path then 9 else 1
  else 0

/-- The score of a link. -/
def score (t : Text) : Except UriFault Nat := (Uri.ofText t).map scoreOf

end AgendaLinks.Link
