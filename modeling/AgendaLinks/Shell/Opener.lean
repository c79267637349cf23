import AgendaLinks.Configuration.Basic
import AgendaLinks.Log
import AgendaLinks.Shell.Quoted

/-!
Commands that open links. A template has a place for the link, which is filled with the link as one
word.
-/

namespace AgendaLinks.Shell

/-- The place of the link in a template. -/
def place : Text := ['%', 's']

/-- The template that a platform opens links with. -/
def defaultTemplate (platform : Text) : Text :=
  (if platform = "darwin".toList then "open %s" else "xdg-open %s").toList

/-- The command of a template for a link. -/
def command (template link : Text) : Text := Text.replaceFirst place (quoted link) template

/-- The template for a link of an event: that of the first entry that applies, or another one. -/
def template (openers : List Choice) (fallback : Text) (e : Event) (link : Text) : Logged Text :=
  match Choice.first? openers e (some link) with
  | some template => return template
  | none => do
    let url := String.ofList link
    Logged.write .debug .opener s!"No open rule matched {url}, using default opener"
    return fallback

/-- The command that opens the first link of the first event that has one. -/
def openFirst (openers : List Choice) (fallback : Text) : List Event → Logged (Option Text)
  | [] => return none
  | e :: es =>
    match e.urls with
    | [] => openFirst openers fallback es
    | link :: _ => do
      let template ← template openers fallback e link
      let (url, title) := (String.ofList link, String.ofList e.title)
      Logged.write .info .command s!"Opening {url} for '{title}'"
      return some (command template link)

end AgendaLinks.Shell
