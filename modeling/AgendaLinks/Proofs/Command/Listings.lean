import AgendaLinks.Proofs.Command.Deeds
import AgendaLinks.Proofs.Text.Utf8

/-!
Listings. The program that lists calendars is run once for each of them, unless a word of the request cannot
be handed to it, and what it wrote is read before it is asked how it ended: nothing is made of an output
that cannot be read, and of any other only if the program ended well. In which pieces the output came does
not matter for that. Events are asked for when calendars have been listed and some of them are included.
-/

namespace AgendaLinks.Command

open Dialogue

variable {α : Type}

/-- What makes a value of the lines of an output. -/
abbrev Reader (α : Type) := List Text → Logged (Except WindowFault α)

/-- The lines of what a program wrote, if it is a text. -/
def Ended.lines? (e : Ended) : Option (List Text) :=
  (Text.ofUtf8 e.output).toOption.map fun t => Text.lines (Text.unifyNewlines t)

/-- What a program wrote is read as a value. -/
def Ended.Reads (e : Ended) (reader : Reader α) (a : α) : Prop :=
  ∃ lines, e.lines? = some lines ∧ (reader lines).value = .ok a

/-- Faults of what a program wrote: it is no text, or an event in it cannot be compared with the window. -/
inductive Fault.IsOfOutput : Fault → Prop where
  | output (fault : Text.Utf8Fault) : IsOfOutput (.output fault)
  | window (fault : WindowFault) : IsOfOutput (.window fault)

/-- What is told of a program that ended badly, unless it cannot be read what it complained of. -/
def Ended.complaint (e : Ended) (seconds : Int) : Except Text.Utf8Fault String :=
  if e.expired then .ok s!"icalBuddy did not finish within {seconds} seconds"
  else (Text.ofUtf8 e.errors).map fun errors =>
    let errors := String.ofList (Text.trim (Text.unifyNewlines errors))
    s!"icalBuddy exited with status {e.status}: {errors}"

variable {least : Nat} {deeds : List Deed} {reader : Reader α} {result : Except Failure α}

theorem flatten_brokenAt (sizes : List Nat) (bytes : List UInt8) :
    (brokenAt sizes bytes).flatten = bytes := by
  induction sizes generalizing bytes with
  | nil => exact List.append_nil bytes
  | cons size sizes ih => rw [brokenAt, List.flatten_cons, ih, List.take_append_drop]

/-- The lines of what a program wrote are read piece by piece. -/
theorem Ended.lines?_eq (e : Ended) : e.lines? = match Text.ofUtf8Pieces [] e.pieces with
    | (t, none) => some (Text.lines (Text.unifyNewlines t))
    | (_, some _) => none := by
  have hread := Text.ofUtf8_flatten [] e.pieces
  rw [List.nil_append, Ended.pieces, flatten_brokenAt] at hread
  rw [Ended.lines?, hread, Ended.pieces]
  rcases Text.ofUtf8Pieces [] (brokenAt e.breaks e.output) with ⟨t, _ | fault⟩ <;> rfl

/-- Reading an output does nothing, and gives the value that is read or a fault. -/
theorem does_readOutput {e : Ended} (h : (readOutput least e.pieces reader).run.Does deeds result) :
    deeds = [] ∧ ((∃ a, e.Reads reader a ∧ result = .ok a) ∨
      (∀ a, ¬e.Reads reader a) ∧ ∃ fault, fault.IsOfOutput ∧ result = .error (.fault fault)) := by
  have hlines := e.lines?_eq
  rw [readOutput] at h
  rcases hpieces : Text.ofUtf8Pieces [] e.pieces with ⟨t, _ | fault⟩
  · rw [hpieces] at h hlines
    dsimp only at h hlines
    have hread := h.of_logged_run
    cases hvalue : (reader (Text.lines (Text.unifyNewlines t))).value with
    | error fault =>
        rw [hvalue] at hread
        obtain ⟨rfl, rfl⟩ := hread.of_throw_run
        refine ⟨rfl, Or.inr ⟨?_, _, .window _, rfl⟩⟩
        rintro a ⟨lines, hlines', ha⟩
        rw [hlines, Option.some.injEq] at hlines'
        subst hlines'
        rw [hvalue] at ha
        cases ha
    | ok a =>
        rw [hvalue] at hread
        obtain ⟨rfl, rfl⟩ := hread.of_pure_run
        exact ⟨rfl, Or.inl ⟨a, ⟨_, hlines, hvalue⟩, rfl⟩⟩
  · rw [hpieces] at h hlines
    dsimp only at h hlines
    have hunread (a : α) : ¬e.Reads reader a := by
      rintro ⟨lines, hlines', -⟩
      rw [hlines] at hlines'
      cases hlines'
    -- one of the entries before the fault may fail first
    split at h
    · obtain ⟨rfl, rfl⟩ := h.of_logged_run.of_throw_run
      exact ⟨rfl, Or.inr ⟨hunread, _, .window _, rfl⟩⟩
    · obtain ⟨rfl, rfl⟩ := h.of_logged_run.of_throw_run
      exact ⟨rfl, Or.inr ⟨hunread, _, .output _, rfl⟩⟩

/-- What becomes of an attempt to have something listed. A program that cannot be started is a failed
listing, and so is one that ended badly when its output and its complaint are read. -/
inductive Yields (lister : Text) (seconds : Int) (reader : Reader α) :
    Attempt → Except Failure α → Prop where
  | notFound : Yields lister seconds reader .notFound
      (.error (.listing ("icalBuddy executable not found: " ++ String.ofList lister)))
  | refused (reason : Text) : Yields lister seconds reader (.refused reason)
      (.error (.listing ("Failed to start icalBuddy: " ++ String.ofList reason)))
  | unread {e : Ended} {fault : Fault} : (∀ a, ¬e.Reads reader a) → fault.IsOfOutput →
      Yields lister seconds reader (.ended e) (.error (.fault fault))
  | listed {e : Ended} {a : α} : e.Reads reader a → e.status = 0 →
      Yields lister seconds reader (.ended e) (.ok a)
  | failed {e : Ended} {a : α} {message : String} : e.Reads reader a → e.status ≠ 0 →
      e.complaint seconds = .ok message →
      Yields lister seconds reader (.ended e) (.error (.listing message))
  | unexplained {e : Ended} {a : α} {fault : Text.Utf8Fault} : e.Reads reader a → e.status ≠ 0 →
      e.complaint seconds = .error fault →
      Yields lister seconds reader (.ended e) (.error (.fault (.output fault)))

variable {lister : Text} {seconds : Int}

theorem Yields.ended {attempt : Attempt} {a : α} (h : Yields lister seconds reader attempt (.ok a)) :
    ∃ e, attempt = .ended e ∧ e.status = 0 ∧ e.Reads reader a := by
  cases h with
  | listed hreads hstatus => exact ⟨_, rfl, hstatus, hreads⟩

theorem does_readEnded {e : Ended} (h : (readEnded least seconds e reader).run.Does deeds result) :
    deeds = [] ∧ Yields lister seconds reader (.ended e) result := by
  rcases Does.of_bind_run h with ⟨fault, hfault, rfl⟩ | ⟨first, a, second, hread, hending, rfl⟩
  · obtain ⟨rfl, ⟨a, -, hok⟩ | ⟨hunread, fault', hof, heq⟩⟩ := does_readOutput hfault
    · cases hok
    · cases heq
      exact ⟨rfl, .unread hunread hof⟩
  · obtain ⟨rfl, ⟨a', hreads, hok⟩ | ⟨-, fault', -, heq⟩⟩ := does_readOutput hread
    · cases hok
      -- the status is looked at only after the output was read
      split_ifs at hending with hstatus hexpired
      · obtain ⟨rfl, rfl⟩ := hending.of_pure_run
        exact ⟨rfl, .listed hreads hstatus⟩
      · obtain ⟨rfl, rfl⟩ := hending.of_throw_run
        refine ⟨rfl, .failed hreads hstatus ?_⟩
        rw [Ended.complaint, if_pos hexpired]
      · cases herrors : Text.ofUtf8 e.errors with
        | ok errors =>
            rw [herrors] at hending
            obtain ⟨rfl, rfl⟩ := hending.of_throw_run
            refine ⟨rfl, .failed hreads hstatus ?_⟩
            rw [Ended.complaint, if_neg hexpired, herrors]
            rfl
        | error fault =>
            rw [herrors] at hending
            obtain ⟨rfl, rfl⟩ := hending.of_throw_run
            refine ⟨rfl, .unexplained hreads hstatus ?_⟩
            rw [Ended.complaint, if_neg hexpired, herrors]
            rfl
    · cases heq

/-- Every word of a request can be handed to a program. -/
def Passable (request : List Text) : Prop := ∀ word ∈ request, '\x00' ∉ word

theorem all_isPassable_iff {request : List Text} :
    request.all isPassable = true ↔ Passable request := by
  simp [Passable, isPassable]

variable {request : List Text}

/-- One listing is one run of the program, or none if the request cannot be handed to it. -/
theorem does_list (h : (list least lister seconds request reader).run.Does deeds result) :
    (Passable request ∧ ∃ attempt, deeds = [.run lister request seconds attempt] ∧
      Yields lister seconds reader attempt result) ∨
    ¬Passable request ∧ deeds = [] ∧ ∃ failure, result = .error failure := by
  rw [list] at h
  by_cases hpassable : request.all isPassable = true
  · rw [if_pos hpassable] at h
    refine Or.inl ⟨all_isPassable_iff.1 hpassable, ?_⟩
    obtain ⟨first, attempt, second, hrun, hsecond, rfl⟩ := h.of_lift_bind_run
    cases hrun with
    | run hdone =>
        obtain ⟨rfl, rfl⟩ := hdone.of_pure
        refine ⟨attempt, ?_⟩
        cases attempt with
        | notFound =>
            obtain ⟨rfl, rfl⟩ := hsecond.of_throw_run
            exact ⟨rfl, .notFound⟩
        | refused reason =>
            obtain ⟨rfl, rfl⟩ := hsecond.of_logged_run.of_throw_run
            exact ⟨rfl, .refused reason⟩
        | ended e =>
            obtain ⟨rfl, hyields⟩ := does_readEnded hsecond.of_logged_run
            exact ⟨rfl, hyields⟩
  · rw [if_neg hpassable] at h
    refine Or.inr ⟨fun hall => hpassable (all_isPassable_iff.2 hall), ?_⟩
    obtain ⟨first, isThere, second, hfind, hsecond, rfl⟩ := h.of_lift_bind_run
    cases hfind with
    | find hdone =>
        obtain ⟨rfl, rfl⟩ := hdone.of_pure
        split_ifs at hsecond
        · obtain ⟨rfl, rfl⟩ := hsecond.of_logged_run.of_throw_run
          exact ⟨rfl, _, rfl⟩
        · obtain ⟨rfl, rfl⟩ := hsecond.of_throw_run
          exact ⟨rfl, _, rfl⟩

/-- The calendars can always be asked for. -/
theorem does_list_calendars
    (h : (list least lister seconds Listing.calendarsRequest reader).run.Does deeds result) :
    ∃ attempt, deeds = [.run lister Listing.calendarsRequest seconds attempt] ∧
      Yields lister seconds reader attempt result := by
  rcases does_list h with ⟨-, hrun⟩ | ⟨hunpassable, -⟩
  · exact hrun
  · exact absurd (all_isPassable_iff.1 (by decide)) hunpassable

/-- The reader of a listing of calendars. -/
def calendarsReader : Reader (List Calendar) := fun lines => (Listing.readCalendars lines).map .ok

/-- The reader of a listing of the events of calendars in a window. -/
def eventsReader (known : List Calendar) (w : Window) : Reader (List Event) :=
  Listing.readEvents known w.includes

/-- The calendars of some listed ones that a configuration includes. -/
def included (c : Configuration) (all : List Calendar) : List Calendar :=
  all.filter fun k => c.includes k.title

theorem reads_calendarsReader {e : Ended} {all : List Calendar} :
    e.Reads calendarsReader all ↔ ∃ lines, e.lines? = some lines ∧ all = Listing.calendars lines := by
  refine exists_congr fun lines => and_congr_right fun _ => ?_
  show Except.ok (Listing.calendars lines) = Except.ok all ↔ _
  rw [Except.ok.injEq]
  exact eq_comm

/-- A program ended well and listed the calendars of which some are the known ones. -/
def Attempt.Lists (attempt : Attempt) (c : Configuration) (known : List Calendar) : Prop :=
  ∃ e t, attempt = .ended e ∧ e.status = 0 ∧ Text.ofUtf8 e.output = .ok t ∧
    known = (Listing.calendars (Text.lines (Text.unifyNewlines t))).filter fun k => c.includes k.title

variable {c : Configuration}

theorem Yields.lists {attempt : Attempt} {all : List Calendar}
    (h : Yields lister seconds calendarsReader attempt (.ok all)) :
    attempt.Lists c (included c all) := by
  obtain ⟨e, rfl, hstatus, hreads⟩ := h.ended
  obtain ⟨lines, hlines, rfl⟩ := reads_calendarsReader.1 hreads
  unfold Ended.lines? at hlines
  cases hdecoded : Text.ofUtf8 e.output with
  | error fault =>
      rw [hdecoded] at hlines
      cases hlines
  | ok t =>
      rw [hdecoded] at hlines
      cases hlines
      exact ⟨e, t, rfl, hstatus, hdecoded, rfl⟩

theorem does_listCalendars {result : Except Failure (List Calendar)}
    (h : (listCalendars least lister seconds c).run.Does deeds result) :
    ∃ attempt all, deeds = [.run lister Listing.calendarsRequest seconds attempt] ∧
      Yields lister seconds calendarsReader attempt all ∧
      result = all.map (included c) := by
  rcases h.of_logged_run.of_bind_run with
    ⟨fault, hfault, rfl⟩ | ⟨first, all, second, hfirst, hsecond, rfl⟩
  · obtain ⟨attempt, rfl, hyields⟩ := does_list_calendars hfault
    exact ⟨attempt, .error fault, rfl, hyields, rfl⟩
  · obtain ⟨attempt, rfl, hyields⟩ := does_list_calendars hfirst
    obtain ⟨rfl, rfl⟩ := hsecond.of_pure_run
    exact ⟨attempt, .ok all, rfl, hyields, rfl⟩

/-- What is done to list events of a window: the calendars are listed, and if some are known and can be
named to the program, their events. -/
inductive Fetches (lister : Text) (seconds : Int) (c : Configuration) (w : Window) :
    List Deed → Except Failure (List Event) → Prop where
  | failed {attempt : Attempt} {fault : Failure} :
      Yields lister seconds calendarsReader attempt (.error fault) →
      Fetches lister seconds c w [.run lister Listing.calendarsRequest seconds attempt] (.error fault)
  | unknown {attempt : Attempt} {all : List Calendar} :
      Yields lister seconds calendarsReader attempt (.ok all) →
      included c all = [] →
      Fetches lister seconds c w [.run lister Listing.calendarsRequest seconds attempt] (.ok [])
  | unaskable {attempt : Attempt} {all known : List Calendar} {fault : Failure} :
      Yields lister seconds calendarsReader attempt (.ok all) →
      known = included c all → known ≠ [] → ¬Passable (Listing.eventsRequest known w) →
      Fetches lister seconds c w [.run lister Listing.calendarsRequest seconds attempt] (.error fault)
  | listed {attempt attempt' : Attempt} {all known : List Calendar}
      {found : Except Failure (List Event)} :
      Yields lister seconds calendarsReader attempt (.ok all) →
      known = included c all → known ≠ [] →
      Yields lister seconds (eventsReader known w) attempt' found →
      Fetches lister seconds c w [.run lister Listing.calendarsRequest seconds attempt,
          .run lister (Listing.eventsRequest known w) seconds attempt']
        (found.map fun events => (Link.processEvents c events).value)

theorem does_listEvents {w : Window} {result : Except Failure (List Event)}
    (h : (listEvents least lister seconds c w).run.Does deeds result) :
    Fetches lister seconds c w deeds result := by
  rcases Does.of_bind_run h with ⟨fault, hfault, rfl⟩ | ⟨first, known, second, hfirst, hsecond, rfl⟩
  · obtain ⟨attempt, all, rfl, hyields, hall⟩ := does_listCalendars hfault
    cases all with
    | error fault' =>
        cases hall
        exact .failed hyields
    | ok all => cases hall
  obtain ⟨attempt, all, rfl, hyields, hall⟩ := does_listCalendars hfirst
  cases all with
  | error fault => cases hall
  | ok all =>
      cases hall
      split_ifs at hsecond with hempty
      · obtain ⟨rfl, rfl⟩ := hsecond.of_pure_run
        exact .unknown hyields (List.isEmpty_iff.1 hempty)
      · have hne : included c all ≠ [] := by
          rwa [Ne, ← List.isEmpty_iff]
        rcases hsecond.of_logged_run.of_bind_run with
          ⟨fault, hfault, rfl⟩ | ⟨first, events, second, hlisting, hlinks, rfl⟩
        · rcases does_list hfault with ⟨-, attempt', rfl, hyields'⟩ | ⟨hunpassable, rfl, -⟩
          · exact .listed hyields rfl hne hyields'
          · exact .unaskable hyields rfl hne hunpassable
        · rcases does_list hlisting with ⟨-, attempt', rfl, hyields'⟩ | ⟨-, -, failure, hfailed⟩
          · obtain ⟨linked, hlinked, rfl⟩ := hlinks.of_lift_run
            obtain ⟨rfl, rfl⟩ := hlinked.of_ofLogged
            exact .listed hyields rfl hne hyields'
          · cases hfailed

end AgendaLinks.Command
