import AgendaLinks.Proofs.Command.Listings

/-!
The courses that the program can take, whatever the files hold, the programs answer and the shell says:
what each part of it does, and what has come of that if the next part is reached.
-/

namespace AgendaLinks.Command

open Dialogue

variable {least : Nat} {deeds : List Deed} {lister : Text} {seconds : Int} {c : Configuration}

/-- The window of a task at a time. -/
inductive Task.HasWindow (now : Stamp) : Task → Window → Prop where
  | events {limits : Limits} {w : Window} :
      Window.ofStart (limits.start.getD now) limits.finish = .ok w → HasWindow now (.events limits) w
  | openFirst {limits : Limits} {w : Window} (dryRun : Bool) :
      Window.ofStart (limits.start.getD now) limits.finish = .ok w →
      HasWindow now (.openFirst limits dryRun) w

/-- What is done for a task, and whether it succeeds: without a window nothing is done, without a listing
nothing more, and with the events of the window either something is printed at the end or, for the first
link, a shell carries out a command, if the command can be handed to it. -/
inductive Performs (now : Stamp) (lister : Text) (seconds : Int) (c : Configuration) :
    Task → List Deed → Except Failure Nat → Prop where
  | unasked (task : Task) (fault : Failure) : Performs now lister seconds c task [] (.error fault)
  | noCalendars {attempt : Attempt} {fault : Failure} :
      Yields lister seconds calendarsReader attempt (.error fault) →
      Performs now lister seconds c .calendars
        [.run lister Listing.calendarsRequest seconds attempt] (.error fault)
  | calendars {attempt : Attempt} {all : List Calendar} (t : Text) :
      Yields lister seconds calendarsReader attempt (.ok all) →
      Performs now lister seconds c .calendars
        [.run lister Listing.calendarsRequest seconds attempt, .print t] (.ok Status.success)
  | noEvents {task : Task} {w : Window} {deeds : List Deed} {fault : Failure} : task.HasWindow now w →
      Fetches lister seconds c w deeds (.error fault) →
      Performs now lister seconds c task deeds (.error fault)
  | events {limits : Limits} {w : Window} {deeds : List Deed} {events : List Event} (t : Text) :
      (Task.events limits).HasWindow now w → Fetches lister seconds c w deeds (.ok events) →
      Performs now lister seconds c (.events limits) (deeds ++ [.print t]) (.ok Status.success)
  | unopened {limits : Limits} {dryRun : Bool} {w : Window} {deeds : List Deed} {events : List Event}
      {result : Except Failure Nat} : (Task.openFirst limits dryRun).HasWindow now w →
      Fetches lister seconds c w deeds (.ok events) → result ≠ .ok Status.success →
      Performs now lister seconds c (.openFirst limits dryRun) deeds result
  | shown {limits : Limits} {w : Window} {deeds : List Deed} {events : List Event} (t : Text) :
      (Task.openFirst limits true).HasWindow now w → Fetches lister seconds c w deeds (.ok events) →
      Performs now lister seconds c (.openFirst limits true) (deeds ++ [.print t]) (.ok Status.success)
  | opened {limits : Limits} {w : Window} {deeds : List Deed} {events : List Event} (command : Text)
      (status : Int) (result : Except Failure Nat) : (Task.openFirst limits false).HasWindow now w →
      Fetches lister seconds c w deeds (.ok events) → events ≠ [] →
      Performs now lister seconds c (.openFirst limits false) (deeds ++ [.shell command status]) result

/-- What is printed is printed at once, and then a task has succeeded. -/
theorem does_print {t : Text} {n : Nat} {result : Except Failure Nat}
    (h : (ExceptT.lift (.print t (.done ())) >>= fun _ => pure n : Steps Nat).run.Does deeds result) :
    deeds = [.print t] ∧ result = .ok n := by
  obtain ⟨first, hprint, rfl⟩ := h.of_bind_pure_run
  obtain ⟨_, hprint, rfl⟩ := hprint.of_lift_run
  cases hprint with
  | print hnothing =>
      obtain ⟨rfl, -⟩ := hnothing.of_pure
      exact ⟨rfl, rfl⟩

/-- A command is carried out once, whatever its status is, or it cannot be handed to the shell. -/
theorem does_openLink {command : Text} {n : Nat} {result : Except Failure Nat}
    (h : (openLink false command >>= fun _ => pure n : Steps Nat).run.Does deeds result) :
    (∃ status, deeds = [.shell command status]) ∨ deeds = [] ∧ ∃ fault, result = .error fault := by
  obtain ⟨first, hopen, rfl⟩ := h.of_bind_pure_run
  rw [openLink, if_neg Bool.false_ne_true] at hopen
  split_ifs at hopen
  · obtain ⟨rfl, rfl⟩ := hopen.of_throw_run
    exact Or.inr ⟨rfl, _, rfl⟩
  · obtain ⟨before, status, after, hrun, hstatus, rfl⟩ := hopen.of_lift_bind_run
    cases hrun with
    | shell hnothing =>
        obtain ⟨rfl, rfl⟩ := hnothing.of_pure
        refine Or.inl ⟨_, congrArg _ ?_⟩
        split_ifs at hstatus
        · exact hstatus.of_throw_run.1
        · exact hstatus.of_pure_run.1

/-- Choosing the window does nothing. -/
theorem does_window {s : Surroundings} {limits : Limits} {result : Except Failure Window}
    (h : (window s limits).run.Does deeds result) :
    deeds = [] ∧ ∀ w, result = .ok w → Window.ofStart (limits.start.getD s.now) limits.finish = .ok w := by
  rw [window] at h
  cases hwindow : Window.ofStart (limits.start.getD s.now) limits.finish with
  | ok w =>
      rw [hwindow] at h
      obtain ⟨rfl, rfl⟩ := h.of_pure_run
      refine ⟨rfl, fun w' hw' => ?_⟩
      cases hw'
      rfl
  | error fault =>
      rw [hwindow] at h
      obtain ⟨rfl, rfl⟩ := h.of_throw_run
      exact ⟨rfl, nofun⟩

theorem does_perform {s : Surroundings} {task : Task} {result : Except Failure Nat}
    (h : (perform least s lister seconds c task).run.Does deeds result) :
    Performs s.now lister seconds c task deeds result := by
  cases task with
  | calendars =>
      rcases Does.of_bind_run h with ⟨fault, hfault, rfl⟩ | ⟨first, known, second, hlist, hreport, rfl⟩
      · obtain ⟨attempt, all, rfl, hyields, hall⟩ := does_listCalendars hfault
        cases all with
        | error fault' =>
            cases hall
            exact .noCalendars hyields
        | ok all => cases hall
      · obtain ⟨attempt, all, rfl, hyields, hall⟩ := does_listCalendars hlist
        obtain ⟨rfl, rfl⟩ := does_print hreport
        cases all with
        | error fault => cases hall
        | ok all => exact .calendars _ hyields
  | events limits =>
      rcases Does.of_bind_run h with ⟨fault, hfault, rfl⟩ | ⟨first, w, second, hwindow, hevents, rfl⟩
      · rw [(does_window hfault).1]
        exact .unasked _ fault
      · obtain ⟨rfl, hw⟩ := does_window hwindow
        have hwindow := Task.HasWindow.events (hw w rfl)
        rcases hevents.of_bind_run with
          ⟨fault, hfault, rfl⟩ | ⟨first, events, second, hlist, hreport, rfl⟩
        · exact .noEvents hwindow (does_listEvents hfault)
        · obtain ⟨rfl, rfl⟩ := does_print hreport
          exact .events _ hwindow (does_listEvents hlist)
  | openFirst limits dryRun =>
      rcases Does.of_bind_run h with ⟨fault, hfault, rfl⟩ | ⟨first, w, second, hwindow, hevents, rfl⟩
      · rw [(does_window hfault).1]
        exact .unasked _ fault
      · obtain ⟨rfl, hw⟩ := does_window hwindow
        have hwindow := Task.HasWindow.openFirst dryRun (hw w rfl)
        rcases hevents.of_bind_run with
          ⟨fault, hfault, rfl⟩ | ⟨first, events, second, hlist, hopen, rfl⟩
        · exact .noEvents hwindow (does_listEvents hfault)
        · have hfetches := does_listEvents hlist
          have hcommand := hopen.of_logged_run
          cases hfirst : (Shell.openFirst c.openers (Shell.defaultTemplate s.platform) events).value with
          | none =>
              rw [hfirst] at hcommand
              obtain ⟨rfl, rfl⟩ := hcommand.of_logged_run.of_pure_run
              rw [List.append_nil]
              exact .unopened hwindow hfetches nofun
          | some command =>
              have hne : events ≠ [] := by
                rintro rfl
                cases hfirst
              rw [hfirst] at hcommand
              cases dryRun with
              | true =>
                  obtain ⟨rfl, rfl⟩ := does_print hcommand
                  exact .shown _ hwindow hfetches
              | false =>
                  rcases does_openLink hcommand with ⟨status, rfl⟩ | ⟨rfl, fault, rfl⟩
                  · exact .opened command status result hwindow hfetches hne
                  · rw [List.append_nil]
                    exact .unopened hwindow hfetches nofun

/-- The configuration that is found at a path, if it is accepted; a missing file stands for the empty
one. -/
def FileState.configuration? (path : Text) : FileState → Option Configuration
  | missing => (Configuration.ofFile path none).value.toOption
  | content bytes => (Configuration.ofFile path (some bytes)).value.toOption
  | unreadable _ => none

/-- The number of seconds that a listing may take, if what is written is one. -/
def Surroundings.seconds? (s : Surroundings) : Option Int :=
  Text.wholeNumber? (s.seconds.getD "30".toList)

theorem does_found {path : Text} {content : Option (List UInt8)}
    {result : Except Ending Configuration}
    (h : (readConfiguration.found least path content).Does deeds result) :
    deeds = [] ∧ result.toOption = (Configuration.ofFile path content).value.toOption := by
  have hread := h.of_ofLogged_bind
  cases hvalue : (Configuration.ofFile path content).value with
  | ok c =>
      rw [hvalue] at hread
      obtain ⟨rfl, rfl⟩ := hread.of_pure
      exact ⟨rfl, rfl⟩
  | error fault =>
      rw [hvalue] at hread
      dsimp only at hread
      split_ifs at hread
      · obtain ⟨rfl, rfl⟩ := hread.of_ofLogged_bind.of_pure
        exact ⟨rfl, rfl⟩
      · obtain ⟨rfl, rfl⟩ := hread.of_pure
        exact ⟨rfl, rfl⟩

/-- At most one file is read for the configuration, and nothing else is done. -/
theorem does_readConfiguration {s : Surroundings} {chosen : Option Text}
    {result : Except Ending Configuration}
    (h : (readConfiguration least s chosen).Does deeds result) :
    (deeds = [] ∧ ∃ ending, result = .error ending) ∨
      ∃ path found, deeds = [.read path found] ∧ result.toOption = found.configuration? path := by
  rw [readConfiguration] at h
  cases hpath : configurationPath s chosen with
  | error fault =>
      rw [hpath] at h
      obtain ⟨rfl, rfl⟩ := h.of_pure
      exact Or.inl ⟨rfl, _, rfl⟩
  | ok path =>
      rw [hpath] at h
      cases h with
      | @read _ _ found _ _ hnext =>
          cases found with
          | missing =>
              obtain ⟨rfl, hresult⟩ := does_found hnext
              exact Or.inr ⟨path, .missing, rfl, hresult⟩
          | content bytes =>
              obtain ⟨rfl, hresult⟩ := does_found hnext
              exact Or.inr ⟨path, .content bytes, rfl, hresult⟩
          | unreadable reason =>
              obtain ⟨rfl, rfl⟩ := hnext.of_pure
              exact Or.inr ⟨path, .unreadable reason, rfl, rfl⟩

/-- How the program ends when a task has been carried out or has failed. -/
def Ending.ofResult : Except Failure Nat → Ending
  | .ok n => .status n
  | .error (.fault f) => .fault f
  | .error _ => .status Status.failure

theorem does_concluded {result : Except Failure Nat} {ending : Ending}
    (h : (concluded least result).Does deeds ending) :
    deeds = [] ∧ ending = Ending.ofResult result := by
  match result, h with
  | .ok n, h => exact h.of_pure
  | .error (.listing message), h => exact h.of_ofLogged_bind.of_pure
  | .error (.shell status command), h => exact h.of_ofLogged_bind.of_pure
  | .error (.fault f), h => exact h.of_pure

theorem does_timed {task : Task} {work : Dialogue Ending} {ending : Ending}
    (h : (timed least task work).Does deeds ending) : work.Does deeds ending := by
  obtain ⟨first, ending', second, hwork, hrest, rfl⟩ := h.of_bind
  obtain ⟨before, hundredths, after, helapsed, hlog, rfl⟩ := hrest.of_bind
  obtain ⟨rfl, rfl⟩ := hlog.of_ofLogged_bind.of_pure
  cases helapsed with
  | elapsed hnothing =>
      obtain ⟨rfl, -⟩ := hnothing.of_pure
      rw [List.append_nil, List.append_nil]
      exact hwork

/-- What the program does on its arguments: with a configuration that is accepted and a number of seconds
it carries out the task, otherwise it reads the configuration at most. -/
inductive Works (s : Surroundings) (a : Arguments) : List Deed → Ending → Prop where
  | unread (ending : Ending) : Works s a [] ending
  | rejected {path : Text} {found : FileState} (ending : Ending) :
      found.configuration? path = none ∨ s.seconds? = none → Works s a [.read path found] ending
  | performed {path : Text} {found : FileState} {lister : Text} {seconds : Int} {c : Configuration}
      {deeds : List Deed} {result : Except Failure Nat} :
      found.configuration? path = some c → s.seconds? = some seconds →
      Performs s.now lister seconds c a.task deeds result →
      Works s a (.read path found :: deeds) (Ending.ofResult result)

theorem does_work {s : Surroundings} {a : Arguments} {ending : Ending}
    (h : (work s a least).Does deeds ending) : Works s a deeds ending := by
  obtain ⟨first, read, second, hread, hrest, rfl⟩ := Does.of_bind h
  rcases does_readConfiguration hread with ⟨rfl, ending', rfl⟩ | ⟨path, found, rfl, hfound⟩
  · obtain ⟨rfl, rfl⟩ := hrest.of_pure
    exact .unread _
  · cases read with
    | error ending' =>
        obtain ⟨rfl, rfl⟩ := hrest.of_pure
        exact .rejected _ (Or.inl hfound.symm)
    | ok c =>
        cases hseconds : Text.wholeNumber? (s.seconds.getD "30".toList) with
        | none =>
            simp only [hseconds] at hrest
            obtain ⟨rfl, rfl⟩ := hrest.of_ofLogged_bind.of_pure
            exact .rejected _ (Or.inr hseconds)
        | some seconds =>
            simp only [hseconds] at hrest
            obtain ⟨deeds, result, after, hperform, hconcluded, rfl⟩ := (does_timed hrest).of_bind
            obtain ⟨rfl, rfl⟩ := does_concluded hconcluded
            rw [List.append_nil]
            exact .performed hfound.symm hseconds (does_perform hperform)

theorem does_program {s : Surroundings} {texts : List Text} {a : Arguments} {ending : Ending}
    (ha : Arguments.read s.zone s.configuration (s.level.getD "WARNING".toList) texts = .ok a)
    (h : (program s texts).Does deeds ending) : Works s a deeds ending := by
  rw [program, ha] at h
  cases hlevel : thresholdNamed a.level with
  | error fault =>
      simp only [hlevel] at h
      obtain ⟨rfl, -⟩ := h.of_pure
      exact .unread _
  | ok least =>
      simp only [hlevel] at h
      exact does_work h

end AgendaLinks.Command
