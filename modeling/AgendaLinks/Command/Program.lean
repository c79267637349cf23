import AgendaLinks.Command.Arguments
import AgendaLinks.Command.Dialogue
import AgendaLinks.Configuration.File
import AgendaLinks.Link.Agenda
import AgendaLinks.Listing.Calendars
import AgendaLinks.Listing.Events
import AgendaLinks.Listing.Request
import AgendaLinks.Log.Threshold
import AgendaLinks.Number.Shortest
import AgendaLinks.Number.Whole
import AgendaLinks.Report.Json
import AgendaLinks.Shell.Opener

/-!
The program: it reads the configuration, has the calendars and the events of a window listed, and
reports them or opens the first link. Faults of the configuration and of the listing end it with a message and
a status; others leave it as they are.
-/

namespace AgendaLinks.Command

/-- What the surroundings of the program set. -/
structure Surroundings where
  configuration : Option Text := none
  level : Option Text := none
  /-- The seconds that a listing may take, as they are written. -/
  seconds : Option Text := none
  /-- The program that lists calendars. -/
  lister : Option Text := none
  home : Text
  platform : Text := "linux".toList
  /-- The zone of the clocks. -/
  zone : Zone := .universal
  now : Stamp

/-- What the system cannot read. -/
inductive SystemFault where
  /-- A file, for a reason that the system gives. -/
  | file (reason : Text)
  /-- A word for another program with a zero byte in it, at which the word would end. -/
  | zeroByte

def SystemFault.message : SystemFault → String
  | file reason => String.ofList reason
  | zeroByte => "embedded null byte"

/-- A fault that the program does not answer with a message of its own. -/
inductive Fault where
  | threshold (fault : ThresholdFault)
  /-- The path of the configuration starts in the home of an unknown user. -/
  | noHome
  | unreadable (fault : SystemFault)
  | file (path : Text) (fault : FileFault)
  /-- What a program wrote is no text. -/
  | output (fault : Text.Utf8Fault)
  | window (fault : WindowFault)

def Fault.message : Fault → String
  | threshold fault => fault.message
  | noHome => "Could not determine home directory."
  | unreadable fault => fault.message
  | file path fault => fault.message path
  | output fault => fault.message
  | window fault => fault.message

/-- How the program ends. -/
inductive Ending where
  | status (n : Nat)
  | fault (f : Fault)

namespace Status

def success : Nat := 0

def failure : Nat := 1

def badConfiguration : Nat := 2

end Status

/-- Why a task is not carried out. -/
inductive Failure where
  | listing (message : String)
  | shell (status : Int) (command : Text)
  | fault (f : Fault)

/-- Steps that may fail, of which messages are written from a level on. -/
abbrev Steps := ExceptT Failure Dialogue

def logged {α : Type} (least : Nat) (x : Logged α) : Steps α :=
  ExceptT.lift (Dialogue.ofLogged least x)

def log (least : Nat) (level : Level) (channel : Channel) (text : String) : Dialogue Unit :=
  Dialogue.ofLogged least (Logged.write level channel text)

/-! ### The configuration -/

/-- The parts of a path between slashes; those that stay at the same place are left out. -/
private def pathParts (path : Text) : List Text :=
  (Text.pieces '/' path).filter fun part => !part.isEmpty && part ≠ ['.']

private def pathRoot (path : Text) : Text :=
  match path with
  | '/' :: '/' :: '/' :: _ => ['/']
  | '/' :: '/' :: _ => ['/', '/']
  | '/' :: _ => ['/']
  | _ => []

/-- A path in its plain form, from the home of the user if it starts with a tilde. -/
private def plainPath (home path : Text) : Except Fault Text :=
  let root := pathRoot path
  match root, pathParts path with
  | [], ['~'] :: rest => .ok (Text.joinWith ['/'] (home :: rest))
  | [], ('~' :: _) :: _ => .error .noHome
  | [], [] => .ok ['.']
  | root, parts => .ok (root ++ Text.joinWith ['/'] parts)

def configurationPath (s : Surroundings) (chosen : Option Text) : Except Fault Text :=
  match chosen with
  | none | some [] => .ok (s.home ++ "/.config/meeting-urls/config.yml".toList)
  | some path => plainPath s.home path

/-- The configuration, or the status after a message about it. -/
def readConfiguration (least : Nat) (s : Surroundings) (chosen : Option Text) :
    Dialogue (Except Ending Configuration) :=
  match configurationPath s chosen with
  | .error fault => return .error (.fault fault)
  | .ok path => .read path fun
    | .unreadable reason => return .error (.fault (.unreadable (.file reason)))
    | .missing => found path none
    | .content bytes => found path (some bytes)
where
  found (path : Text) (content : Option (List UInt8)) : Dialogue (Except Ending Configuration) := do
    match ← Dialogue.ofLogged least (Configuration.ofFile path content) with
    | .ok c => return .ok c
    | .error fault =>
      if fault.isRejection then
        log least .error .command ("Invalid configuration: " ++ fault.message path)
        return .error (.status Status.badConfiguration)
      return .error (.fault (.file path fault))

/-! ### Listings -/

/-- The lines of a text that are complete, when more was to come. A carriage return at its very end waits
for what follows it. -/
def completeLines (t : Text) : List Text :=
  let t := if t.getLast? = some '\r' then t.dropLast else t
  (Text.lines (Text.unifyNewlines t)).filter fun l => l.getLast? = some '\n'

/-- The lines before the last bullet: the entries that end there are read to their ends. -/
def closedLines (lines : List Text) : List Text :=
  ((lines.reverse.dropWhile fun l => !Listing.isBullet l).drop 1).reverse

/-- What a reader makes of the output of a program, which comes in pieces. The lines before a fault are
read before it is met; nothing is made of the entry that it breaks off. -/
def readOutput {α : Type} (least : Nat) (pieces : List (List UInt8))
    (reader : List Text → Logged (Except WindowFault α)) : Steps α := do
  match Text.ofUtf8Pieces [] pieces with
  | (t, none) =>
    match ← logged least (reader (Text.lines (Text.unifyNewlines t))) with
    | .ok a => return a
    | .error fault => throw (.fault (.window fault))
  | (t, some fault) =>
    let before := completeLines t
    let closed := reader (closedLines before)
    match closed.value with
    | .error stop =>
      logged least ⟨(), closed.log⟩
      throw (.fault (.window stop))
    | .ok _ =>
      -- the message about what was found comes only after the last line
      let read := reader before
      logged least ⟨(), if read.value.isOk then read.log.dropLast else read.log⟩
      throw (.fault (.output fault))

/-- What comes of a program that has ended and of what it wrote, as a reader makes it out: the output is
read before it is asked how the program ended. -/
def readEnded {α : Type} (least : Nat) (seconds : Int) (e : Ended)
    (reader : List Text → Logged (Except WindowFault α)) : Steps α := do
  let a ← readOutput least e.pieces reader
  if e.status = 0 then return a
  else if e.expired then throw (.listing s!"icalBuddy did not finish within {seconds} seconds")
  else
    match Text.ofUtf8 e.errors with
    | .ok errors =>
      let errors := String.ofList (Text.trim (Text.unifyNewlines errors))
      throw (.listing s!"icalBuddy exited with status {e.status}: {errors}")
    | .error fault => throw (.fault (.output fault))

/-- Whether a word can be handed to another program. -/
def isPassable (word : Text) : Bool := !word.contains '\x00'

/-- The answer of the program that lists calendars to a request, as a reader makes it out. The program is
looked for before it comes out that a word of the request cannot be handed to it. -/
def list {α : Type} (least : Nat) (lister : Text) (seconds : Int) (request : List Text)
    (reader : List Text → Logged (Except WindowFault α)) : Steps α := do
  let command := String.ofList (Value.shown (.list ((lister :: request).map .text)))
  let running := log least .debug .client ("Running " ++ command)
  let notFound := Failure.listing ("icalBuddy executable not found: " ++ String.ofList lister)
  if request.all isPassable then
    match ← ExceptT.lift (Dialogue.run lister request seconds .done) with
    | .notFound => throw notFound
    | .refused reason =>
      ExceptT.lift running
      throw (.listing ("Failed to start icalBuddy: " ++ String.ofList reason))
    | .ended e =>
      ExceptT.lift running
      readEnded least seconds e reader
  else if ← ExceptT.lift (Dialogue.find lister .done) then
    ExceptT.lift running
    throw (.fault (.unreadable .zeroByte))
  else throw notFound

def listCalendars (least : Nat) (lister : Text) (seconds : Int) (c : Configuration) :
    Steps (List Calendar) := do
  ExceptT.lift (log least .info .client "Fetching calendar list from icalBuddy")
  let all ← list least lister seconds Listing.calendarsRequest fun lines =>
    (Listing.readCalendars lines).map .ok
  return all.filter fun k => c.includes k.title

def listEvents (least : Nat) (lister : Text) (seconds : Int) (c : Configuration)
    (w : Window) : Steps (List Event) := do
  let known ← listCalendars least lister seconds c
  if known.isEmpty then return []
  let (start, finish) := (String.ofList w.start.isoText, String.ofList w.finish.isoText)
  ExceptT.lift <| log least .info .client <|
    s!"Fetching events from {known.length} calendars between {start} and {finish}"
  let events ← list least lister seconds (Listing.eventsRequest known w) fun lines =>
    Listing.readEvents known w.includes lines
  logged least (Link.processEvents c events)

/-! ### Tasks -/

def report (items : List Json) : Steps Unit :=
  ExceptT.lift (.print (Json.indented 0 (.list items) ++ ['\n']) (.done ()))

def window (s : Surroundings) (l : Limits) : Steps Window :=
  match Window.ofStart (l.start.getD s.now) l.finish with
  | .ok w => return w
  | .error fault => throw (.fault (.window fault))

/-- The command for the first link is shown, or carried out by a shell. -/
def openLink (dryRun : Bool) (command : Text) : Steps Unit := do
  if dryRun then ExceptT.lift (.print (command ++ ['\n']) (.done ()))
  else if !isPassable command then throw (.fault (.unreadable .zeroByte))
  else
    let status ← ExceptT.lift (Dialogue.shell command .done)
    if status ≠ 0 then throw (.shell status command)

/-- Carry out a task; the result is a status. -/
def perform (least : Nat) (s : Surroundings) (lister : Text) (seconds : Int)
    (c : Configuration) : Task → Steps Nat
  | .calendars => do
    let known ← listCalendars least lister seconds c
    report (known.map Json.ofCalendar)
    return Status.success
  | .events limits => do
    let w ← window s limits
    let events ← listEvents least lister seconds c w
    report (events.map Json.ofEvent)
    return Status.success
  | .openFirst limits dryRun => do
    let w ← window s limits
    let events ← listEvents least lister seconds c w
    let fallback := Shell.defaultTemplate s.platform
    match ← logged least (Shell.openFirst c.openers fallback events) with
    | some command =>
      openLink dryRun command
      return Status.success
    | none =>
      ExceptT.lift <| log least .warning .command "No event with a URL found in the time window"
      return Status.failure

/-- The ending that a failure leads to, after a message about it. -/
def concluded (least : Nat) : Except Failure Nat → Dialogue Ending
  | .ok status => return .status status
  | .error (.listing message) => do
    log least .error .command ("Failed to list calendar data: " ++ message)
    return .status Status.failure
  | .error (.shell status command) => do
    let shown := String.ofList command
    log least .error .command s!"Open command failed with status {status}: {shown}"
    return .status Status.failure
  | .error (.fault f) => return .fault f

def timed (least : Nat) (task : Task) (work : Dialogue Ending) : Dialogue Ending := do
  let ending ← work
  let hundredths ← Dialogue.elapsed .done
  let time := String.ofList (Double.ofDecimal false hundredths (-2)).text
  log least .info .command s!"Command '{task.name}' finished in {time} seconds"
  return ending

/-- The work of the program on its arguments. -/
def work (s : Surroundings) (a : Arguments) (least : Nat) : Dialogue Ending := do
  match ← readConfiguration least s a.configuration with
  | .error ending => return ending
  | .ok c =>
    let written := s.seconds.getD "30".toList
    match Text.wholeNumber? written with
    | none =>
      let shown := String.ofList (Text.quoted written)
      log least .error .command ("Invalid ICALBUDDY_TIMEOUT: " ++ shown)
      return .status Status.badConfiguration
    | some seconds =>
      let lister := s.lister.getD "icalBuddy".toList
      timed least a.task do
        concluded least (← (perform least s lister seconds c a.task).run)

/-- The program with texts as its arguments. -/
def program (s : Surroundings) (texts : List Text) : Dialogue Ending :=
  match Arguments.read s.zone s.configuration (s.level.getD "WARNING".toList) texts with
  | .error (.ended status output errors) => .tell errors (.print output (.done (.status status)))
  | .error .beyond => return .fault (.window .noDayAfter)
  | .ok a =>
    match thresholdNamed a.level with
    | .error fault => return .fault (.threshold fault)
    | .ok least => work s a least

end AgendaLinks.Command
