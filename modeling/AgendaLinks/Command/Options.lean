import AgendaLinks.Text.Classes
import AgendaLinks.Text.Quoted

/-!
Reading the arguments of a command by its options. An option has names that start with hyphens; a value
follows it as the next argument or after an equals sign. A long name may be cut short as long as it is
not ambiguous, and options of one letter may be written together. What is neither an option nor a value
is a word, and after two hyphens there are only words.
-/

namespace AgendaLinks.Command

/-- Why the value of an option is not taken. -/
inductive ValueFault where
  | refused (message : String)
  /-- The value is a time after the last day, which is no matter of the options any more. -/
  | beyond
  deriving DecidableEq, Repr

/-- What an option does to the settings. -/
inductive Effect (σ : Type) where
  /-- The command is explained and nothing else is done. -/
  | help
  | mark (set : σ → σ)
  /-- The option has a value, which may not be taken. -/
  | value (set : Text → σ → Except ValueFault σ)

/-- An option. A name of one hyphen has one letter, and its option has no value. -/
structure Switch (σ : Type) where
  names : List Text
  effect : Effect σ

/-- A command with its options. -/
structure Grammar (σ : Type) where
  /-- The name of the command. -/
  title : String
  /-- How the command is called. -/
  usage : String
  /-- What is said about the command and its options. -/
  help : String
  switches : List (Switch σ)

/-- The end of a command that does not get to work. -/
inductive Halt where
  /-- The command writes something and ends with a status. -/
  | ended (status : Nat) (output errors : Text)
  /-- An option has a time after the last day as its value. -/
  | beyond
  deriving DecidableEq, Repr

namespace Grammar

variable {σ : Type}

/-- The end with an explanation. -/
def explain (g : Grammar σ) : Halt := .ended 0 (g.usage ++ "\n" ++ g.help).toList []

/-- The end with a message about the arguments. -/
def refuse (g : Grammar σ) (message : String) : Halt :=
  .ended 2 [] (g.usage ++ g.title ++ ": error: " ++ message ++ "\n").toList

private def names (g : Grammar σ) : List (Text × Switch σ) :=
  g.switches.flatMap fun s => s.names.map fun n => (n, s)

private def named? (g : Grammar σ) (name : Text) : Option (Switch σ) := g.names.lookup name

end Grammar

/-! ### Telling options from words -/

/-- What an argument is. -/
inductive Kind (σ : Type) where
  | word
  /-- The two hyphens after which there are only words. -/
  | hyphens
  | unknown
  | switch (s : Switch σ) (name : Text) (attached : Option (Bool × Text))

/-- Whether a text is a negative number, which is a word. -/
def isNegative (t : Text) : Bool :=
  match t with
  | '-' :: body =>
    let body := (Text.after? ['\n'] body.reverse).elim body List.reverse
    let (whole, rest) := body.span Text.isDecimal
    match rest with
    | [] => !whole.isEmpty
    | '.' :: places => !places.isEmpty && places.all Text.isDecimal
    | _ => false
  | _ => false

private def switchesFor {σ : Type} (g : Grammar σ) (t : Text) : List (Kind σ × Text) :=
  match t with
  | '-' :: '-' :: _ =>
    let (start, value) := Text.cut '=' t
    (g.names.filter fun (n, _) => Text.startsWith n start).map fun (n, s) =>
      (.switch s n (value.map fun v => (true, v)), n)
  | '-' :: c :: rest =>
    (g.names.filter fun (n, _) => n = ['-', c]).map fun (n, s) => (.switch s n (some (false, rest)), n)
  | _ => []

/-- What an argument is, or the message about its ambiguity. -/
def kindOf {σ : Type} (g : Grammar σ) (t : Text) : Except String (Kind σ) :=
  if t.head? ≠ some '-' ∨ t.length = 1 then .ok .word
  else match g.named? t, Text.cut '=' t with
    | some s, _ => .ok (.switch s t none)
    | none, (name, value) =>
      match g.named? name, value with
      | some s, some v => .ok (.switch s name (some (true, v)))
      | _, _ =>
        match switchesFor g t with
        | [] => .ok (if isNegative t ∨ t.contains ' ' then .word else .unknown)
        | [(kind, _)] => .ok kind
        | found =>
          let names := ", ".intercalate (found.map fun (_, n) => String.ofList n)
          .error ("ambiguous option: " ++ String.ofList t ++ " could match " ++ names)

/-- What the arguments are. -/
def kindsOf {σ : Type} (g : Grammar σ) : List Text → Except String (List (Text × Kind σ))
  | [] => .ok []
  | t :: rest =>
    if t = ['-', '-'] then .ok ((t, .hyphens) :: rest.map fun w => (w, .word))
    else do
      let kind ← kindOf g t
      return (t, kind) :: (← kindsOf g rest)

/-! ### Following the options -/

/-- What is left of the arguments after the options: arguments that mean nothing, and a word with all
that follows it, if words were asked for. -/
structure Followed (σ : Type) where
  settings : σ
  strange : List Text
  command : Option (Text × List Text)

/-- The message about an option. -/
private def about {σ : Type} (s : Switch σ) (message : String) : String :=
  let names := "/".intercalate (s.names.map String.ofList)
  s!"argument {names}: {message}"

private def ignored (value : Text) : String :=
  "ignored explicit argument " ++ String.ofList (Text.quoted value)

/-- The letters after an option of one letter: options too, up to one that is none, which is left. -/
private def together {σ : Type} (g : Grammar σ) (s : Switch σ) :
    Text → Except String (List (Switch σ) × List Text)
  | [] => .ok ([s], [])
  | c :: rest =>
    if c = '-' then .error (about s (ignored (c :: rest)))
    else match g.named? ['-', c] with
      | none => .ok ([s], ['-' :: c :: rest])
      | some next =>
        match rest with
        | '=' :: value => .error (about next (ignored value))
        | rest => do
          let (more, strange) ← together g next rest
          return (s :: more, strange)

/-- The settings after an option without a value. -/
private def apply {σ : Type} (g : Grammar σ) (s : Switch σ) (settings : σ) : Except Halt σ :=
  match s.effect with
  | .help => .error g.explain
  | .mark set => .ok (set settings)
  | .value _ => .error (g.refuse (about s "expected one argument"))

private def applyAll {σ : Type} (g : Grammar σ) : List (Switch σ) → σ → Except Halt σ
  | [], settings => .ok settings
  | s :: rest, settings => do applyAll g rest (← apply g s settings)

private def applyValue {σ : Type} (g : Grammar σ) (s : Switch σ)
    (set : Text → σ → Except ValueFault σ) (value : Text) (settings : σ) : Except Halt σ :=
  (set value settings).mapError fun
    | .refused message => g.refuse (about s message)
    | .beyond => .beyond

/-- The settings after an option with a text attached to it, and what of it means nothing. -/
private def applyAttached {σ : Type} (g : Grammar σ) (s : Switch σ) (name : Text) (equals : Bool)
    (value : Text) (settings : σ) : Except Halt (σ × List Text) := do
  match s.effect with
  | .value set => return (← applyValue g s set value settings, [])
  | _ =>
    let isLetter := name.length = 2 ∧ name ≠ ['-', '-']
    if !isLetter ∨ equals ∨ value.isEmpty then throw (g.refuse (about s (ignored value)))
    let (switches, strange) ← (together g s value).mapError g.refuse
    return (← applyAll g switches settings, strange)

private def leave {σ : Type} (t : Text) (f : Followed σ) : Followed σ :=
  { f with strange := t :: f.strange }

private def follow {σ : Type} (g : Grammar σ) (asked : Bool) :
    List (Text × Kind σ) → σ → Except Halt (Followed σ)
  | [], settings => .ok ⟨settings, [], none⟩
  | (t, .word) :: rest, settings =>
    if asked then .ok ⟨settings, [], some (t, rest.map (·.1))⟩
    else leave t <$> follow g asked rest settings
  | (t, .hyphens) :: rest, settings =>
    if asked && !rest.isEmpty then .ok ⟨settings, [], some (t, rest.map (·.1))⟩
    else leave t <$> follow g asked rest settings
  | (t, .unknown) :: rest, settings => leave t <$> follow g asked rest settings
  | (_, .switch s name (some (equals, value))) :: rest, settings => do
    let (settings, strange) ← applyAttached g s name equals value settings
    let f ← follow g asked rest settings
    return { f with strange := strange ++ f.strange }
  | (_, .switch s _ none) :: (t, k) :: rest, settings => do
    match s.effect, k with
    | .value set, .word => follow g asked rest (← applyValue g s set t settings)
    | _, _ => follow g asked ((t, k) :: rest) (← apply g s settings)
  | [(_, .switch s _ none)], settings => do return ⟨← apply g s settings, [], none⟩

/-- The settings that arguments make of others, and what is left. Words are left too, unless one is asked
for, which then ends the options. -/
def Grammar.follow {σ : Type} (g : Grammar σ) (asked : Bool) (arguments : List Text) (settings : σ) :
    Except Halt (Followed σ) := do
  let kinds ← (kindsOf g arguments).mapError g.refuse
  Command.follow g asked kinds settings

end AgendaLinks.Command
