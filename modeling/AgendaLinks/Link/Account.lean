import AgendaLinks.Configuration.Basic
import AgendaLinks.Link.Kind
import AgendaLinks.Log

/-!
Links to meetings for an account. A Google link gets one more parameter; a Zoom link with the number
of a meeting becomes a link that the application opens itself, with the parameters of the former link
after its own ones.
-/

namespace AgendaLinks.Link

open Text

/-- A Google link for an account; other links stay as they are. -/
def withGoogleAccount (t account : Text) : Except UriFault Text := do
  let u ← Uri.ofText t
  if !isMeetHost u.host then return t
  let parameter := Uri.writeQuery [("authuser".toList, account)]
  let (base, fragment) := cut '#' t
  let separator :=
    if u.query ≠ [] then ['&'] else if base.getLast? = some '?' then [] else ['?']
  let augmented := base ++ separator ++ parameter
  return match fragment with
    | none | some [] => augmented
    | some fragment => augmented ++ '#' :: fragment

/-- What a path with the number of a meeting asks for, and the number. -/
def meetingOfPath? (path : Text) : Option (Text × Text) :=
  let numbered (start action : String) := (after? start.toList path).bind fun rest =>
    let number := rest.takeWhile isDecimal
    if number.isEmpty then none else some (action.toList, number)
  (numbered "/j/" "join").or (numbered "/s/" "start")

/-- A Zoom link for an account; links without the number of a meeting stay as they are. -/
def withZoomAccount (t account : Text) : Except UriFault Text := do
  let u ← Uri.ofText t
  if !isZoomHost u.host then return t
  match meetingOfPath? u.path with
  | none => return t
  | some (action, number) =>
    let parameters := Uri.writeQuery
      [("action".toList, action), ("confno".toList, number), ("uname".toList, account)]
    return "zoommtg://".toList ++ u.host ++ '/' :: action ++ '?' :: parameters ++
      (if u.query = [] then [] else '&' :: u.query)

/-- A link for the account that the configuration names for it, if it names one. -/
def augment (c : Configuration) (e : Event) (t : Text) : Logged (Except UriFault Text) :=
  match Uri.ofText t with
  | .error fault => pure (.error fault)
  | .ok u =>
    if isMeetHost u.host then
      match c.account? .google e (some t) with
      | none | some [] => pure (.ok t)
      | some account => pure (withGoogleAccount t account)
    else if isZoomHost u.host then
      match c.account? .zoom e (some t) with
      | none | some [] => pure (.ok t)
      | some account => do
        let augmented := withZoomAccount t account
        if augmented.toOption ≠ some t then
          let (account, title) := (String.ofList account, String.ofList e.title)
          Logged.write .debug .accounts s!"Rewrote Zoom URL for account '{account}' on '{title}'"
        return augmented
    else pure (.ok t)

end AgendaLinks.Link
