import AgendaLinks.Log

/-!
What a command does step by step: it reads files, has other programs run, and writes. A dialogue holds
the steps together with what follows for every answer, so the same command can be carried out with
real files and programs, or with given answers.
-/

namespace AgendaLinks.Command

/-- What is found at the path of a file. -/
inductive FileState where
  | missing
  | content (bytes : List UInt8)
  /-- Something that cannot be read, and why. -/
  | unreadable (reason : Text)

/-- What a program leaves behind that has ended: what it wrote, and its status, which is negative after a
signal. -/
structure Ended where
  output : List UInt8 := []
  /-- The numbers of bytes in which the output came, but for the last ones, which came together. -/
  breaks : List Nat := []
  errors : List UInt8 := []
  status : Int := 0
  /-- The program was stopped because it took too long. -/
  expired : Bool := false

/-- Bytes in pieces of some sizes, and one piece of all that follow. -/
def brokenAt : List Nat → List UInt8 → List (List UInt8)
  | [], bytes => [bytes]
  | size :: sizes, bytes => bytes.take size :: brokenAt sizes (bytes.drop size)

/-- The pieces in which the output of a program came. -/
def Ended.pieces (e : Ended) : List (List UInt8) := brokenAt e.breaks e.output

/-- What comes of starting a program. -/
inductive Attempt where
  | notFound
  | refused (reason : Text)
  | ended (e : Ended)

/-- The steps of a command up to its result. -/
inductive Dialogue (α : Type) where
  | done (a : α)
  | log (m : Message) (rest : Dialogue α)
  | print (t : Text) (rest : Dialogue α)
  /-- Text for the user that is no result. -/
  | tell (t : Text) (rest : Dialogue α)
  | read (path : Text) (next : FileState → Dialogue α)
  /-- Look whether a program is there. -/
  | find (program : Text) (next : Bool → Dialogue α)
  /-- Run a program with arguments for at most so many seconds. -/
  | run (program : Text) (arguments : List Text) (seconds : Int) (next : Attempt → Dialogue α)
  /-- Have a shell carry out a command; the answer is its status. -/
  | shell (command : Text) (next : Int → Dialogue α)
  /-- The time since the start, in hundredths of a second. -/
  | elapsed (next : Nat → Dialogue α)

namespace Dialogue

/-- One dialogue after another. -/
def bind {α β : Type} (f : α → Dialogue β) : Dialogue α → Dialogue β
  | done a => f a
  | log m rest => log m (rest.bind f)
  | print t rest => print t (rest.bind f)
  | tell t rest => tell t (rest.bind f)
  | read path next => read path fun x => (next x).bind f
  | find program next => find program fun x => (next x).bind f
  | run program arguments seconds next => run program arguments seconds fun x => (next x).bind f
  | shell command next => shell command fun x => (next x).bind f
  | elapsed next => elapsed fun x => (next x).bind f

instance : Monad Dialogue where
  pure := done
  bind x f := x.bind f

/-- The messages of an operation that are important enough, and then its value. -/
def ofLogged {α : Type} (least : Nat) (x : Logged α) : Dialogue α :=
  x.log.foldr (fun m rest => if least ≤ m.level.rank then log m rest else rest) (done x.value)

end Dialogue

/-- Given answers for a dialogue. -/
structure Answers where
  file : Text → FileState
  find : Text → Bool := fun _ => true
  run : Text → List Text → Attempt
  shell : Text → Int
  elapsed : Nat := 0

/-- What was written and asked for in a dialogue. -/
structure Transcript where
  log : List Message := []
  printed : Text := []
  told : Text := []
  /-- The arguments of the programs that were run. -/
  runs : List (List Text) := []
  shells : List Text := []

/-- The result of a dialogue with given answers, and its transcript. -/
def Dialogue.transcript {α : Type} (given : Answers) : Dialogue α → α × Transcript
  | done a => (a, {})
  | log m rest =>
    let (a, t) := rest.transcript given
    (a, { t with log := m :: t.log })
  | print text rest =>
    let (a, t) := rest.transcript given
    (a, { t with printed := text ++ t.printed })
  | tell text rest =>
    let (a, t) := rest.transcript given
    (a, { t with told := text ++ t.told })
  | read path next => (next (given.file path)).transcript given
  | find program next => (next (given.find program)).transcript given
  | run program arguments _ next =>
    let attempt := given.run program arguments
    let (a, t) := (next attempt).transcript given
    match attempt with
    | .ended _ => (a, { t with runs := arguments :: t.runs })
    | _ => (a, t)
  | shell command next =>
    let (a, t) := (next (given.shell command)).transcript given
    (a, { t with shells := command :: t.shells })
  | elapsed next => (next given.elapsed).transcript given

end AgendaLinks.Command
