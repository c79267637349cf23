import AgendaLinks.Command.Options
import AgendaLinks.Time.Iso
import AgendaLinks.Time.Zone

/-!
The arguments of the program: options, the name of a task, and the options of the task.
-/

namespace AgendaLinks.Command

/-- Why a text names no time in a zone. -/
inductive ZonedTimeFault where
  | unreadable
  /-- The text names a time without an offset, for which the zone has no point in time. -/
  | unplaced (fault : ZoneFault)
  deriving DecidableEq, Repr

/-- The time that a text names; without an offset it is a time that the clocks of a zone show. -/
def readTimeIn (zone : Zone) (t : Text) : Except ZonedTimeFault Stamp :=
  match Time.readIso? t with
  | none => .error .unreadable
  | some iso =>
    match iso.offset with
    | some o => .ok ⟨iso.date, iso.clock, o⟩
    | none => (zone.stamp iso.date iso.clock).mapError .unplaced

/-- Why a text names no time when clocks show universal time. -/
inductive TimeFault where
  | unreadable (text : Text)
  /-- The first day has no local times, since those before it have no year. -/
  | firstDay
  deriving DecidableEq, Repr

def TimeFault.message : TimeFault → String
  | unreadable t => "Invalid date/time: " ++ String.ofList t
  | firstDay => "year 0 is out of range"

/-- The time that a text names when clocks show universal time. -/
def readTime (t : Text) : Except TimeFault Stamp :=
  (readTimeIn .universal t).mapError fun
    | .unreadable => .unreadable t
    | .unplaced _ => .firstDay

/-- The start and the end of a window, as far as they are given. -/
structure Limits where
  start : Option Stamp := none
  finish : Option Stamp := none
  deriving DecidableEq, Repr

/-- What the program is to do. -/
inductive Task where
  /-- List the calendars. -/
  | calendars
  /-- List the events of a window. -/
  | events (limits : Limits)
  /-- Open the first link of a window, or only show the command for it. -/
  | openFirst (limits : Limits) (dryRun : Bool)
  deriving DecidableEq, Repr

/-- The name of a task. -/
def Task.name : Task → String
  | calendars => "calendars"
  | events _ => "events"
  | openFirst .. => "open"

/-- The arguments of the program. -/
structure Arguments where
  /-- The path of the configuration. -/
  configuration : Option Text
  /-- The name of the level from which on messages are written. -/
  level : Text
  task : Task
  deriving DecidableEq, Repr

/-! ### The options of the program -/

private structure Leading where
  configuration : Option Text
  level : Text

private def help {σ : Type} : Switch σ := ⟨["-h".toList, "--help".toList], .help⟩

private def leadingGrammar : Grammar Leading where
  title := "meeting-urls"
  usage := "usage: meeting-urls [-h] [--config CONFIG] [--log-level LOG_LEVEL]\n" ++
    "                    \x7bcalendars,events,open\x7d ...\n"
  help := "List calendar events and their meeting URLs using icalBuddy.\n" ++
    "\n" ++
    "positional arguments:\n" ++
    "  \x7bcalendars,events,open\x7d\n" ++
    "    calendars           List calendars as JSON\n" ++
    "    events              List events in a time window as JSON\n" ++
    "    open                Open the meeting URL of the first event in a time\n" ++
    "                        window\n" ++
    "\n" ++
    "options:\n" ++
    "  -h, --help            show this help message and exit\n" ++
    "  --config CONFIG       Path to the YAML configuration file\n" ++
    "  --log-level LOG_LEVEL\n" ++
    "                        Logging level (default: WARNING)\n"
  switches := [help,
    ⟨["--config".toList], .value fun t s => .ok { s with configuration := some t }⟩,
    ⟨["--log-level".toList], .value fun t s => .ok { s with level := t }⟩]

/-! ### The options of the tasks -/

private def calendarsGrammar : Grammar Unit where
  title := "meeting-urls calendars"
  usage := "usage: meeting-urls calendars [-h]\n"
  help := "options:\n" ++
    "  -h, --help  show this help message and exit\n"
  switches := [help]

private def timeValue (zone : Zone) (t : Text) : Except ValueFault Stamp :=
  (readTimeIn zone t).mapError fun
    | .unreadable => .refused (TimeFault.unreadable t).message
    | .unplaced (.noYear _) =>
      .refused ("invalid _parse_datetime value: " ++ String.ofList (Text.quoted t))
    | .unplaced .outOfRange => .beyond

private structure Opening where
  limits : Limits := {}
  dryRun : Bool := false

private def limitSwitches {σ : Type} (zone : Zone) (change : (Limits → Limits) → σ → σ) :
    List (Switch σ) :=
  [⟨["--from".toList], .value fun t s => do
      let time ← timeValue zone t
      return change (fun l => { l with start := some time }) s⟩,
    ⟨["--to".toList], .value fun t s => do
      let time ← timeValue zone t
      return change (fun l => { l with finish := some time }) s⟩]

private def limitsHelp : String :=
  "  --from START  Window start, ISO 8601 (default: now)\n" ++
  "  --to END      Window end, ISO 8601 (default: end of today)\n"

private def eventsGrammar (zone : Zone) : Grammar Limits where
  title := "meeting-urls events"
  usage := "usage: meeting-urls events [-h] [--from START] [--to END]\n"
  help := "options:\n" ++
    "  -h, --help    show this help message and exit\n" ++ limitsHelp
  switches := help :: limitSwitches zone fun f l => f l

private def openGrammar (zone : Zone) : Grammar Opening where
  title := "meeting-urls open"
  usage := "usage: meeting-urls open [-h] [--from START] [--to END] [--dry-run]\n"
  help := "options:\n" ++
    "  -h, --help    show this help message and exit\n" ++ limitsHelp ++
    "  --dry-run     Print the command instead of running it\n"
  switches := help :: limitSwitches zone (fun f o => { o with limits := f o.limits }) ++
    [⟨["--dry-run".toList], .mark fun o => { o with dryRun := true }⟩]

/-- A task and the arguments that mean nothing to it. -/
private def readTask (zone : Zone) (name : Text) (arguments : List Text) :
    Except Halt (Task × List Text) := do
  if name = "calendars".toList then
    let f ← calendarsGrammar.follow false arguments ()
    return (.calendars, f.strange)
  else if name = "events".toList then
    let f ← (eventsGrammar zone).follow false arguments {}
    return (.events f.settings, f.strange)
  else if name = "open".toList then
    let f ← (openGrammar zone).follow false arguments {}
    return (.openFirst f.settings.limits f.settings.dryRun, f.strange)
  else
    let shown := String.ofList (Text.quoted name)
    throw <| leadingGrammar.refuse <|
      s!"argument command: invalid choice: {shown} (choose from 'calendars', 'events', 'open')"

/-- The arguments that texts stand for, given the zone of times without an offset, and the path and the
level that hold without options. -/
def Arguments.read (zone : Zone) (configuration : Option Text) (level : Text) (texts : List Text) :
    Except Halt Arguments := do
  let f ← leadingGrammar.follow true texts ⟨configuration, level⟩
  match f.command with
  | none => throw (leadingGrammar.refuse "the following arguments are required: command")
  | some (name, rest) =>
    let (task, strange) ← readTask zone name rest
    let strange := f.strange ++ strange
    if !strange.isEmpty then
      throw <| leadingGrammar.refuse <|
        "unrecognized arguments: " ++ String.ofList (Text.joinWith [' '] strange)
    return ⟨f.settings.configuration, f.settings.level, task⟩

end AgendaLinks.Command
