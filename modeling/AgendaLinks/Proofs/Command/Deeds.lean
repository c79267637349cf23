import AgendaLinks.Command.Program
import AgendaLinks.Proofs.Fallible

/-!
What a command does to its surroundings, whatever they answer. The deeds of a dialogue are what it
writes as a result, the files that it reads and the programs that it starts, in order and with the
answers; what is written to the log is left out, and so is that it looks whether a program is there. A
dialogue followed by another one does the deeds of the first one and then those of the second one.
-/

namespace AgendaLinks.Command

/-- What a command does, with what it is answered. -/
inductive Deed where
  | print (t : Text)
  | read (path : Text) (found : FileState)
  | run (program : Text) (arguments : List Text) (seconds : Int) (attempt : Attempt)
  | shell (command : Text) (status : Int)

namespace Dialogue

/-- The deeds of a dialogue and its result, for some answers to what it asks. -/
inductive Does {α : Type} : Dialogue α → List Deed → α → Prop where
  | done (a : α) : Does (.done a) [] a
  | log {m : Message} {rest : Dialogue α} {deeds : List Deed} {a : α} :
      Does rest deeds a → Does (.log m rest) deeds a
  | print {t : Text} {rest : Dialogue α} {deeds : List Deed} {a : α} :
      Does rest deeds a → Does (.print t rest) (.print t :: deeds) a
  | tell {t : Text} {rest : Dialogue α} {deeds : List Deed} {a : α} :
      Does rest deeds a → Does (.tell t rest) deeds a
  | read {path : Text} {next : FileState → Dialogue α} {found : FileState} {deeds : List Deed} {a : α} :
      Does (next found) deeds a → Does (.read path next) (.read path found :: deeds) a
  | find {program : Text} {next : Bool → Dialogue α} {found : Bool} {deeds : List Deed} {a : α} :
      Does (next found) deeds a → Does (.find program next) deeds a
  | run {program : Text} {arguments : List Text} {seconds : Int} {next : Attempt → Dialogue α}
      {attempt : Attempt} {deeds : List Deed} {a : α} : Does (next attempt) deeds a →
      Does (.run program arguments seconds next) (.run program arguments seconds attempt :: deeds) a
  | shell {command : Text} {next : Int → Dialogue α} {status : Int} {deeds : List Deed} {a : α} :
      Does (next status) deeds a → Does (.shell command next) (.shell command status :: deeds) a
  | elapsed {next : Nat → Dialogue α} {hundredths : Nat} {deeds : List Deed} {a : α} :
      Does (next hundredths) deeds a → Does (.elapsed next) deeds a

/-- The deeds of a dialogue with given answers. -/
def deeds {α : Type} (given : Answers) : Dialogue α → List Deed
  | done _ => []
  | log _ rest => rest.deeds given
  | print t rest => .print t :: rest.deeds given
  | tell _ rest => rest.deeds given
  | read path next => .read path (given.file path) :: (next (given.file path)).deeds given
  | find program next => (next (given.find program)).deeds given
  | run program arguments seconds next =>
    .run program arguments seconds (given.run program arguments) ::
      (next (given.run program arguments)).deeds given
  | shell command next =>
    .shell command (given.shell command) :: (next (given.shell command)).deeds given
  | elapsed next => (next given.elapsed).deeds given

variable {α β : Type}

/-- With given answers a dialogue does what its transcript shows. -/
theorem does_deeds (given : Answers) (d : Dialogue α) :
    d.Does (d.deeds given) (d.transcript given).1 := by
  induction d with
  | done a => exact .done a
  | log m rest ih => exact .log ih
  | print t rest ih => exact .print ih
  | tell t rest ih => exact .tell ih
  | read path next ih => exact .read (ih _)
  | find program next ih => exact .find (ih _)
  | run program arguments seconds next ih =>
      have hresult : ((Dialogue.run program arguments seconds next).transcript given).1 =
          ((next (given.run program arguments)).transcript given).1 := by
        rw [transcript]
        cases given.run program arguments <;> rfl
      rw [hresult]
      exact .run (ih _)
  | shell command next ih => exact .shell (ih _)
  | elapsed next ih => exact .elapsed (ih _)

/-- The programs that are run answer what is given. -/
theorem attempt_of_mem_deeds {given : Answers} {d : Dialogue α} {program : Text}
    {arguments : List Text} {seconds : Int} {attempt : Attempt}
    (h : .run program arguments seconds attempt ∈ d.deeds given) :
    attempt = given.run program arguments := by
  induction d with
  | done a => cases h
  | log m rest ih => exact ih h
  | print t rest ih =>
      rcases List.mem_cons.1 h with heq | hrest
      · cases heq
      · exact ih hrest
  | tell t rest ih => exact ih h
  | read path next ih =>
      rcases List.mem_cons.1 h with heq | hrest
      · cases heq
      · exact ih _ hrest
  | find program next ih => exact ih _ h
  | run program arguments seconds next ih =>
      rcases List.mem_cons.1 h with heq | hrest
      · cases heq
        rfl
      · exact ih _ hrest
  | shell command next ih =>
      rcases List.mem_cons.1 h with heq | hrest
      · cases heq
      · exact ih _ hrest
  | elapsed next ih => exact ih _ h

variable {deeds : List Deed}

theorem Does.of_bind {d : Dialogue α} {f : α → Dialogue β} {b : β} (h : (d >>= f).Does deeds b) :
    ∃ first a second, d.Does first a ∧ (f a).Does second b ∧ deeds = first ++ second := by
  change (d.bind f).Does deeds b at h
  induction d generalizing deeds with
  | done a => exact ⟨[], a, deeds, .done a, h, rfl⟩
  | log m rest ih =>
      cases h with
      | log hrest =>
          obtain ⟨first, a, second, hfirst, hsecond, rfl⟩ := ih hrest
          exact ⟨first, a, second, .log hfirst, hsecond, rfl⟩
  | print t rest ih =>
      cases h with
      | print hrest =>
          obtain ⟨first, a, second, hfirst, hsecond, rfl⟩ := ih hrest
          exact ⟨_, a, second, .print hfirst, hsecond, rfl⟩
  | tell t rest ih =>
      cases h with
      | tell hrest =>
          obtain ⟨first, a, second, hfirst, hsecond, rfl⟩ := ih hrest
          exact ⟨first, a, second, .tell hfirst, hsecond, rfl⟩
  | read path next ih =>
      cases h with
      | read hrest =>
          obtain ⟨first, a, second, hfirst, hsecond, rfl⟩ := ih _ hrest
          exact ⟨_, a, second, .read hfirst, hsecond, rfl⟩
  | find program next ih =>
      cases h with
      | find hrest =>
          obtain ⟨first, a, second, hfirst, hsecond, rfl⟩ := ih _ hrest
          exact ⟨first, a, second, .find hfirst, hsecond, rfl⟩
  | run program arguments seconds next ih =>
      cases h with
      | run hrest =>
          obtain ⟨first, a, second, hfirst, hsecond, rfl⟩ := ih _ hrest
          exact ⟨_, a, second, .run hfirst, hsecond, rfl⟩
  | shell command next ih =>
      cases h with
      | shell hrest =>
          obtain ⟨first, a, second, hfirst, hsecond, rfl⟩ := ih _ hrest
          exact ⟨_, a, second, .shell hfirst, hsecond, rfl⟩
  | elapsed next ih =>
      cases h with
      | elapsed hrest =>
          obtain ⟨first, a, second, hfirst, hsecond, rfl⟩ := ih _ hrest
          exact ⟨first, a, second, .elapsed hfirst, hsecond, rfl⟩

theorem Does.of_pure {a b : α} (h : (pure a : Dialogue α).Does deeds b) : deeds = [] ∧ b = a := by
  obtain _ | _ := h
  exact ⟨rfl, rfl⟩

/-- Writing messages is no deed. -/
theorem Does.of_ofLogged {least : Nat} {x : Logged α} {a : α}
    (h : (ofLogged least x).Does deeds a) : deeds = [] ∧ a = x.value := by
  obtain ⟨value, log⟩ := x
  induction log with
  | nil => exact Does.of_pure h
  | cons m log ih =>
      rw [ofLogged, List.foldr_cons] at h
      split_ifs at h
      · obtain _ | hrest := h
        exact ih hrest
      · exact ih h

theorem Does.of_ofLogged_bind {least : Nat} {x : Logged α} {f : α → Dialogue β} {b : β}
    (h : (ofLogged least x >>= f).Does deeds b) : (f x.value).Does deeds b := by
  obtain ⟨first, a, second, hfirst, hsecond, rfl⟩ := h.of_bind
  obtain ⟨rfl, rfl⟩ := hfirst.of_ofLogged
  exact hsecond

theorem Does.of_pure_run {a : α} {result : Except Failure α}
    (h : (pure a : Steps α).run.Does deeds result) : deeds = [] ∧ result = .ok a :=
  Does.of_pure h

theorem Does.of_throw_run {fault : Failure} {result : Except Failure α}
    (h : (throw fault : Steps α).run.Does deeds result) : deeds = [] ∧ result = .error fault :=
  Does.of_pure h

/-- Steps that fail are the last ones. -/
theorem Does.of_bind_run {x : Steps α} {f : α → Steps β} {result : Except Failure β}
    (h : (x >>= f).run.Does deeds result) :
    (∃ fault, x.run.Does deeds (.error fault) ∧ result = .error fault) ∨
      ∃ first a second, x.run.Does first (.ok a) ∧ (f a).run.Does second result ∧
        deeds = first ++ second := by
  obtain ⟨first, a, second, hfirst, hsecond, rfl⟩ := Does.of_bind h
  cases a with
  | error fault =>
      obtain ⟨rfl, rfl⟩ := Does.of_pure hsecond
      rw [List.append_nil]
      exact Or.inl ⟨fault, hfirst, rfl⟩
  | ok a => exact Or.inr ⟨first, a, second, hfirst, hsecond, rfl⟩

theorem Does.of_lift_run {x : Dialogue α} {result : Except Failure α}
    (h : (ExceptT.lift x : Steps α).run.Does deeds result) :
    ∃ a, x.Does deeds a ∧ result = .ok a := by
  obtain ⟨first, a, second, hfirst, hsecond, rfl⟩ := Does.of_bind h
  obtain ⟨rfl, rfl⟩ := Does.of_pure hsecond
  rw [List.append_nil]
  exact ⟨a, hfirst, rfl⟩

/-- A value that is put in the place of a result changes nothing else. -/
theorem Does.of_bind_pure_run {x : Steps α} {b : β} {result : Except Failure β}
    (h : (x >>= fun _ => pure b).run.Does deeds result) :
    ∃ first, x.run.Does deeds first ∧ result = first.map fun _ => b := by
  rcases h.of_bind_run with ⟨fault, hfault, rfl⟩ | ⟨first, a, second, hfirst, hdone, rfl⟩
  · exact ⟨_, hfault, rfl⟩
  · obtain ⟨rfl, rfl⟩ := hdone.of_pure_run
    rw [List.append_nil]
    exact ⟨_, hfirst, rfl⟩

/-- A dialogue that cannot fail comes before the further steps. -/
theorem Does.of_lift_bind_run {x : Dialogue α} {f : α → Steps β} {result : Except Failure β}
    (h : (ExceptT.lift x >>= f).run.Does deeds result) :
    ∃ first a second, x.Does first a ∧ (f a).run.Does second result ∧ deeds = first ++ second := by
  rcases h.of_bind_run with ⟨fault, hfault, -⟩ | ⟨first, a, second, hfirst, hsecond, rfl⟩
  · obtain ⟨a, -, ha⟩ := hfault.of_lift_run
    cases ha
  · obtain ⟨a', hfirst, ha⟩ := hfirst.of_lift_run
    cases ha
    exact ⟨first, a, second, hfirst, hsecond, rfl⟩

theorem Does.of_logged_run {least : Nat} {x : Logged α} {f : α → Steps β} {result : Except Failure β}
    (h : (logged least x >>= f).run.Does deeds result) : (f x.value).run.Does deeds result := by
  obtain ⟨first, a, second, hfirst, hsecond, rfl⟩ := h.of_lift_bind_run
  obtain ⟨rfl, rfl⟩ := hfirst.of_ofLogged
  exact hsecond

end Dialogue

end AgendaLinks.Command
