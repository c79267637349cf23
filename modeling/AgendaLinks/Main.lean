import AgendaLinks.Command.Program
import Std.Time.Zoned

/-!
The program with real files and a real clock. It starts no other program itself: what is to be run is
written as one line to a file of requests, and what came of it is read from a file of answers; both can
be pipes to a shell, and without them no program is found. A request is `run`, the seconds and the
words, or `shell` and the words, or `find` and the program, each word quoted for the shell. The answer to
the first is `missing`, `refused` with a reason, or `ended` with the status, `1` if the time was up, and
the numbers of bytes of the output and of the errors, which follow it; the answer to the second is the
status, and to the third `found` or `missing`.
-/

namespace AgendaLinks

open Command

/-- The second at which the year 1970 began. -/
private def epochSecond : Int := 719163 * 86400

/-- The zone that the system is set to; an offset of a day or more counts as none. -/
private def systemZone : IO Zone := do
  try
    let rules ← Std.Time.Database.defaultGetLocalZoneRules
    let ahead (second : Int) : Int :=
      (rules.timezoneAt (.ofSecondsSinceUnixEpoch (.ofInt (second - epochSecond)))).offset.second.val
    return ⟨fun second => if (ahead second).natAbs < 86400 then ahead second else 0, by
      intro second
      split
      · assumption
      · decide⟩
  catch _ => return .universal

private def currentStamp (zone : Zone) : IO Stamp := do
  let t ← Std.Time.Timestamp.now
  let micros := t.toNanosecondsSinceUnixEpoch.val.toNat / 1000
  match zone.stampAt? (epochSecond + micros / 1000000) (micros % 1000000) with
  | some s => return s
  | none => throw (IO.userError "the clock shows no date")

/-- The texts that stand for what is outside of the program. -/
private structure Outside where
  zone : Zone
  requests : Option String
  answers : Option String
  started : Nat

private def textVariable (name : String) : IO (Option Text) := do
  return (← IO.getEnv name).map String.toList

/-- A line of the log is written at once, with the time. -/
private def writeMessage (zone : Zone) (m : Message) : IO Unit := do
  let s ← currentStamp zone
  let millis := Text.padded 3 (s.clock.micro / 1000)
  let time := s.date.isoText ++ ' ' :: s.clock.text ++ ',' :: millis
  let line := logLine time m.level.name.toList m.text.toList m.channel.name.toList none
  (← IO.getStderr).putStrLn (String.ofList line)

private def readFile (path : Text) : IO FileState := do
  try
    let bytes ← IO.FS.readBinFile (String.ofList path)
    return .content bytes.toList
  catch
    | .noFileOrDirectory .. => return .missing
    | e => return .unreadable e.toString.toList

/-- The words of a request in one line. -/
private def requestLine (kind : String) (words : List Text) : String :=
  String.ofList (Text.joinWith [' '] (kind.toList :: words.map Shell.quoted))

private def lineWords (line : String) : List String :=
  (Text.pieces ' ' (Text.trim line.toList)).map String.ofList

/-- A pipe is read in pieces of 8192 bytes. -/
private def pipeBreaks (size : Nat) : List Nat := List.replicate ((size - 1) / 8192) 8192

private def endedIn (answers : IO.FS.Handle) : List String → IO Attempt
  | ["ended", status, expired, output, errors] => do
    let output ← answers.read (output.toNat?.getD 0).toUSize
    let errors ← answers.read (errors.toNat?.getD 0).toUSize
    return .ended
      { output := output.toList, breaks := pipeBreaks output.size, errors := errors.toList
        status := status.toInt?.getD 1, expired := expired == "1" }
  | "refused" :: reason => return .refused (" ".intercalate reason).toList
  | _ => return .notFound

/-- One request and the line that answers it. -/
private def ask {α : Type} (o : Outside) (line : String) (absent : α)
    (reader : IO.FS.Handle → List String → IO α) : IO α := do
  match o.requests, o.answers with
  | some requests, some answers =>
    let out ← IO.FS.Handle.mk requests .append
    out.putStrLn line
    out.flush
    let input ← IO.FS.Handle.mk answers .read
    reader input (lineWords (← input.getLine))
  | _, _ => return absent

/-- Carry out a dialogue. -/
private def carryOut {α : Type} (o : Outside) : Dialogue α → IO α
  | .done a => return a
  | .log m rest => do
    writeMessage o.zone m
    carryOut o rest
  | .print t rest => do
    let out ← IO.getStdout
    out.putStr (String.ofList t)
    out.flush
    carryOut o rest
  | .tell t rest => do
    (← IO.getStderr).putStr (String.ofList t)
    carryOut o rest
  | .read path next => do
    let found ← readFile path
    carryOut o (next found)
  | .find program next => do
    let found ← ask o (requestLine "find" [program]) false fun _ words => return words == ["found"]
    carryOut o (next found)
  | .run program arguments seconds next => do
    let line := requestLine "run" (Text.ofInt seconds :: program :: arguments)
    let attempt ← ask o line .notFound endedIn
    carryOut o (next attempt)
  | .shell command next => do
    let status ← ask o (requestLine "shell" [command]) 127 fun _ words =>
      return ((words.head?.bind String.toInt?).getD 127)
    carryOut o (next status)
  | .elapsed next => do
    let now ← IO.monoMsNow
    carryOut o (next ((now - o.started + 5) / 10))

end AgendaLinks

open AgendaLinks in
/-- The program on the arguments of the command line. -/
def main (arguments : List String) : IO UInt32 := do
  let started ← IO.monoMsNow
  let requests ← IO.getEnv "AGENDA_LINKS_REQUESTS"
  let answers ← IO.getEnv "AGENDA_LINKS_ANSWERS"
  let zone ← systemZone
  let now ← currentStamp zone
  let surroundings : Command.Surroundings :=
    { configuration := ← textVariable "MEETING_URLS_CONFIG"
      level := ← textVariable "LOG_LEVEL"
      seconds := ← textVariable "ICALBUDDY_TIMEOUT"
      lister := ← textVariable "ICALBUDDY_PATH"
      home := (← textVariable "HOME").getD []
      zone, now }
  let dialogue := Command.program surroundings (arguments.map String.toList)
  match ← carryOut ⟨zone, requests, answers, started⟩ dialogue with
  | .status n => return n.toUInt32
  | .fault f =>
    (← IO.getStderr).putStrLn f.message
    return 1
