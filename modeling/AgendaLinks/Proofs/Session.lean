import AgendaLinks.Proofs.Fallible
import AgendaLinks.Session

/-!
Runs of sessions. A step that fails leaves everything as it is, so the other steps answer as if it had not
been there, and a step changes one part of a session at most. Steps that configure, read and select in the
order of the program come to the events that the program would report.
-/

namespace AgendaLinks.Session

/-- The session after a step; the same one if the step fails. -/
def next (s : Session) (x : Step) : Session :=
  match (s.step x).value with
  | .ok (_, after) => after
  | .error _ => s

/-- The session after some steps. -/
def after (s : Session) (xs : List Step) : Session := xs.foldl next s

/-- What a step answers, with the messages that it writes. -/
def answer (s : Session) (x : Step) : Logged (Except Fault Answer) := (s.step x).map (·.map (·.1))

variable {s : Session} {x : Step} {xs ys : List Step}

theorem after_append : s.after (xs ++ ys) = (s.after xs).after ys := List.foldl_append

theorem after_cons : s.after (x :: xs) = (s.next x).after xs := List.foldl_cons

theorem run_cons (s : Session) (x : Step) (xs : List Step) :
    s.run (x :: xs) = do return (← s.answer x) :: (← (s.next x).run xs) := by
  apply Logged.eq_of_value_of_log
  all_goals
    rw [run, answer, next]
    rcases s.step x with ⟨_ | ⟨a, s'⟩, log⟩ <;> rfl

/-- The steps after others go on with the session that those leave behind. -/
theorem run_append (s : Session) (xs ys : List Step) :
    s.run (xs ++ ys) = do return (← s.run xs) ++ (← (s.after xs).run ys) := by
  induction xs generalizing s with
  | nil => simp [run, after]
  | cons x xs ih =>
      rw [List.cons_append, run_cons, run_cons, ih]
      simp [after]

theorem next_of_fails {fault : Fault} (h : (s.step x).value = .error fault) : s.next x = s := by
  rw [next, h]

/-- A step that fails leaves everything as it is: the others answer as they do without it. -/
theorem run_of_fails {fault : Fault} (h : ((s.after xs).step x).value = .error fault) :
    (s.run (xs ++ ys)).value = (s.run xs).value ++ ((s.after xs).run ys).value ∧
      (s.run (xs ++ x :: ys)).value =
        (s.run xs).value ++ .error fault :: ((s.after xs).run ys).value ∧
      s.after (xs ++ x :: ys) = s.after (xs ++ ys) := by
  have hanswer : ((s.after xs).answer x).value = .error fault := by
    rw [answer, Logged.map, h]
    rfl
  have hstays := next_of_fails h
  refine ⟨?_, ?_, ?_⟩
  · rw [run_append]
    rfl
  · rw [run_append, run_cons, hstays]
    simp only [Logged.value_bind, Logged.value_pure, hanswer]
  · rw [after_append, after_append, after_cons, hstays]

/-- The parts of a session. -/
inductive Part where
  | configuration
  | calendars
  | events

/-- The part of a session that a step may change, if there is one. -/
def Step.part? : Step → Option Part
  | configure _ => some .configuration
  | readCalendars _ | filterCalendars => some .calendars
  | readEvents .. | add _ | set .. | keep _ | process => some .events
  | openFirst | templates .. => none

/-- Two sessions differ in some parts at most. -/
structure DiffersIn (parts : List Part) (s s' : Session) : Prop where
  configuration : .configuration ∉ parts → s'.configuration = s.configuration
  calendars : .calendars ∉ parts → s'.calendars = s.calendars
  events : .events ∉ parts → s'.events = s.events

theorem DiffersIn.refl (s : Session) : DiffersIn [] s s := ⟨fun _ => rfl, fun _ => rfl, fun _ => rfl⟩

theorem DiffersIn.trans {parts parts' : List Part} {s s' s'' : Session} (h : DiffersIn parts s s')
    (h' : DiffersIn parts' s' s'') : DiffersIn (parts ++ parts') s s'' := by
  constructor
  all_goals
    intro hpart
    rw [List.mem_append, not_or] at hpart
  · rw [h'.configuration hpart.2, h.configuration hpart.1]
  · rw [h'.calendars hpart.2, h.calendars hpart.1]
  · rw [h'.events hpart.2, h.events hpart.1]

theorem differsIn_configuration (s : Session) (c : Configuration) :
    DiffersIn [.configuration] s { s with configuration := c } :=
  ⟨fun h => absurd (List.mem_singleton_self _) h, fun _ => rfl, fun _ => rfl⟩

theorem differsIn_calendars (s : Session) (all : List Calendar) :
    DiffersIn [.calendars] s { s with calendars := all } :=
  ⟨fun _ => rfl, fun h => absurd (List.mem_singleton_self _) h, fun _ => rfl⟩

theorem differsIn_events (s : Session) (all : List Event) :
    DiffersIn [.events] s { s with events := all } :=
  ⟨fun _ => rfl, fun _ => rfl, fun h => absurd (List.mem_singleton_self _) h⟩

/-- A step changes one part of a session at most. -/
theorem next_differsIn (s : Session) (x : Step) : DiffersIn x.part?.toList s (s.next x) := by
  rw [next]
  cases hstep : (s.step x).value with
  | error fault => exact ⟨fun _ => rfl, fun _ => rfl, fun _ => rfl⟩
  | ok result =>
      obtain ⟨a, s'⟩ := result
      cases x with
      | configure document =>
          simp only [step, Logged.value_pure] at hstep
          split at hstep <;> cases hstep
          exact differsIn_configuration s _
      | readCalendars lines =>
          cases hstep
          exact differsIn_calendars s _
      | filterCalendars =>
          cases hstep
          exact differsIn_calendars s _
      | readEvents window extend lines =>
          simp only [step, Logged.value_bind] at hstep
          split at hstep <;> cases hstep
          exact differsIn_events s _
      | add e =>
          cases hstep
          exact differsIn_events s _
      | set index field value =>
          simp only [step, Logged.value_pure] at hstep
          split at hstep <;> cases hstep
          exact differsIn_events s _
      | keep window =>
          simp only [step, Logged.value_pure] at hstep
          split at hstep <;> cases hstep
          exact differsIn_events s _
      | process =>
          cases hstep
          exact differsIn_events s _
      | openFirst =>
          cases hstep
          exact .refl s
      | templates index fallback =>
          simp only [step] at hstep
          split at hstep <;> cases hstep
          exact .refl s

/-- Steps change no other parts than each of them does. -/
theorem after_differsIn (s : Session) (xs : List Step) :
    DiffersIn (xs.flatMap fun x => x.part?.toList) s (s.after xs) := by
  induction xs generalizing s with
  | nil => exact .refl s
  | cons x xs ih => exact (next_differsIn s x).trans (ih (s.next x))

/-- The steps of the program come to its events: a configuration that is accepted, the calendars of a
listing that it includes, the events of these in a window, and their links. -/
theorem events_after_listing {document : Value} {c : Configuration} {w : Window} {lines lines' : List Text}
    {es : List Event} (hc : Configuration.ofValue document = .ok c)
    (hes : (Listing.readEvents ((Listing.calendars lines).filter fun k => c.includes k.title)
      w.includes lines').value = .ok es) :
    (s.after [.configure document, .readCalendars lines, .filterCalendars,
      .readEvents (some w) false lines', .process]).events = (Link.processEvents c es).value := by
  have hconfigure : s.next (.configure document) = { s with configuration := c } := by
    simp only [next, step, hc, Logged.value_pure]
  have hread (s : Session) (hcalendars : s.calendars =
      (Listing.calendars lines).filter fun k => c.includes k.title) :
      s.next (.readEvents (some w) false lines') = { s with events := es } := by
    have hvalue : (Listing.readEvents s.calendars (filterOf (some w)) lines').value = .ok es := by
      rw [hcalendars]
      exact hes
    simp only [next, step, Logged.value_bind, hvalue]
    rfl
  rw [after_cons, hconfigure, after_cons, after_cons, after_cons, hread _ rfl]
  rfl

end AgendaLinks.Session
