import AgendaLinks.Proofs.Command.Outcome
import AgendaLinks.Proofs.Listing.Windows

/-!
Programs that end badly. When the program that lists calendars has ended badly, no result is printed and
nothing is opened. It is told as a failed listing only if what the program wrote until then can be read to
the end, and what it complained of as well, since both are read before the failure is told; any other
failure is met as a fault of what was written, and takes the place of the status.
-/

namespace AgendaLinks.Command

open Dialogue

variable {α : Type}

/-- It can be told why a program ended badly: it took too long, or what it complained of is a text. -/
def Ended.Complains (e : Ended) : Prop := e.expired = true ∨ ∃ t, Text.ofUtf8 e.errors = .ok t

theorem exists_complaint_iff {e : Ended} {seconds : Int} :
    (∃ message, e.complaint seconds = .ok message) ↔ e.Complains := by
  unfold Ended.complaint Ended.Complains
  by_cases hexpired : e.expired = true
  · rw [if_pos hexpired]
    exact iff_of_true ⟨_, rfl⟩ (Or.inl hexpired)
  · rw [if_neg hexpired, exists_map_eq_ok_iff]
    exact (or_iff_right hexpired).symm

/-- How the bad end of a program is met when its output is read as a value. -/
structure MetAs (e : Ended) (seconds : Int) (reader : Reader α) (failure : Failure) : Prop where
  told : (∃ message, e.complaint seconds = .ok message ∧ failure = .listing message) ∨
    ∃ fault, fault.IsOfOutput ∧ failure = .fault fault
  /-- The failure is told exactly if everything can be read. -/
  legible : (∃ message, failure = .listing message) ↔ (∃ a, e.Reads reader a) ∧ e.Complains

variable {lister : Text} {seconds : Int} {reader : Reader α}

theorem Yields.metAs {e : Ended} {result : Except Failure α}
    (h : Yields lister seconds reader (.ended e) result) (hstatus : e.status ≠ 0) :
    ∃ failure, result = .error failure ∧ MetAs e seconds reader failure := by
  cases h with
  | unread hunread hof =>
      refine ⟨_, rfl, Or.inr ⟨_, hof, rfl⟩, iff_of_false nofun ?_⟩
      rintro ⟨⟨a, hreads⟩, -⟩
      exact hunread a hreads
  | listed hreads hended => exact absurd hended hstatus
  | failed hreads hended hmessage =>
      refine ⟨_, rfl, Or.inl ⟨_, hmessage, rfl⟩, iff_of_true ⟨_, rfl⟩ ⟨⟨_, hreads⟩, ?_⟩⟩
      exact exists_complaint_iff.1 ⟨_, hmessage⟩
  | unexplained hreads hended hfault =>
      refine ⟨_, rfl, Or.inr ⟨_, .output _, rfl⟩, iff_of_false nofun ?_⟩
      rintro ⟨-, hcomplains⟩
      obtain ⟨message, hmessage⟩ := exists_complaint_iff.2 hcomplains
      rw [hfault] at hmessage
      cases hmessage

theorem MetAs.ending_iff {e : Ended} {failure : Failure} (h : MetAs e seconds reader failure) :
    Ending.ofResult (.error failure) = .status Status.failure ↔
      (∃ a, e.Reads reader a) ∧ e.Complains := by
  rw [← h.legible]
  rcases h.told with ⟨message, -, rfl⟩ | ⟨fault, -, rfl⟩
  · exact iff_of_true rfl ⟨message, rfl⟩
  · exact iff_of_false nofun nofun

theorem exists_reads_calendarsReader {e : Ended} :
    (∃ all, e.Reads calendarsReader all) ↔ ∃ lines, e.lines? = some lines := by
  constructor
  · rintro ⟨all, lines, hlines, -⟩
    exact ⟨lines, hlines⟩
  · rintro ⟨lines, hlines⟩
    exact ⟨_, reads_calendarsReader.2 ⟨lines, hlines, rfl⟩⟩

theorem exists_reads_eventsReader {e : Ended} {known : List Calendar} {w : Window} :
    (∃ es, e.Reads (eventsReader known w) es) ↔ ∃ lines all, e.lines? = some lines ∧
      (Listing.readEvents known (Listing.acceptAll : Listing.Filter Empty) lines).value = .ok all ∧
      ∀ event ∈ all, ¬event.TakesLastDay := by
  constructor
  · rintro ⟨es, lines, hlines, hvalue⟩
    exact ⟨lines, _, hlines, Listing.value_readEvents_acceptAll known lines,
      (Listing.exists_readEvents_iff known w lines).1 ⟨es, hvalue⟩⟩
  · rintro ⟨lines, all, hlines, hall, hdays⟩
    rw [Listing.value_readEvents_acceptAll, Except.ok.injEq] at hall
    subst hall
    obtain ⟨es, hvalue⟩ := (Listing.exists_readEvents_iff known w lines).2 hdays
    exact ⟨es, lines, hlines, hvalue⟩

variable {c : Configuration} {w : Window} {now : Stamp} {deeds : List Deed} {request : List Text}
  {e : Ended}

/-- The listing that a program was run for when it ended badly: that of the calendars, or that of the
events of those that were listed before. -/
inductive FailsAt (c : Configuration) (deeds : List Deed) (seconds : Int) (e : Ended)
    (failure : Failure) : List Text → Prop where
  | calendars : MetAs e seconds calendarsReader failure →
      FailsAt c deeds seconds e failure Listing.calendarsRequest
  | events {lister : Text} {listing : Attempt} {known : List Calendar} {w : Window} :
      .run lister Listing.calendarsRequest seconds listing ∈ deeds → listing.Lists c known →
      MetAs e seconds (eventsReader known w) failure →
      FailsAt c deeds seconds e failure (Listing.eventsRequest known w)

theorem Fetches.failsAt {result : Except Failure (List Event)} {lister' : Text} {seconds' : Int}
    (h : Fetches lister seconds c w deeds result)
    (hrun : .run lister' request seconds' (.ended e) ∈ deeds) (hstatus : e.status ≠ 0) :
    ∃ failure, result = .error failure ∧ FailsAt c deeds seconds e failure request := by
  cases h with
  | failed hyields =>
      cases List.mem_singleton.1 hrun
      obtain ⟨failure, heq, hmet⟩ := hyields.metAs hstatus
      cases heq
      exact ⟨_, rfl, .calendars hmet⟩
  | unknown hyields hempty =>
      cases List.mem_singleton.1 hrun
      obtain ⟨failure, heq, -⟩ := hyields.metAs hstatus
      cases heq
  | unaskable hyields hknown hne hunpassable =>
      cases List.mem_singleton.1 hrun
      obtain ⟨failure, heq, -⟩ := hyields.metAs hstatus
      cases heq
  | listed hyields hknown hne hyields' =>
      rcases List.mem_cons.1 hrun with heq | hrun
      · cases heq
        obtain ⟨failure, heq, -⟩ := hyields.metAs hstatus
        cases heq
      · cases List.mem_singleton.1 hrun
        subst hknown
        obtain ⟨failure, rfl, hmet⟩ := hyields'.metAs hstatus
        exact ⟨_, rfl, .events List.mem_cons_self hyields.lists hmet⟩

/-- After a program has ended badly a task does nothing more than it did before. -/
theorem Performs.failsAt {task : Task} {result : Except Failure Nat} {lister' : Text} {seconds' : Int}
    (h : Performs now lister seconds c task deeds result)
    (hrun : .run lister' request seconds' (.ended e) ∈ deeds) (hstatus : e.status ≠ 0) :
    (∃ failure, result = .error failure ∧ FailsAt c deeds seconds e failure request) ∧
      ∀ d ∈ deeds, ∃ arguments attempt, d = .run lister arguments seconds attempt := by
  -- with the events listed to the end, no program can have ended badly
  have hlisted {w : Window} {before : List Deed} {d : Deed} {events : List Event}
      (hfetches : Fetches lister seconds c w before (.ok events))
      (hrun : .run lister' request seconds' (.ended e) ∈ before ++ [d])
      (hd : d ≠ .run lister' request seconds' (.ended e)) : False := by
    rcases List.mem_append.1 hrun with hrun | hrun
    · obtain ⟨failure, heq, -⟩ := hfetches.failsAt hrun hstatus
      cases heq
    · exact hd (List.mem_singleton.1 hrun).symm
  cases h with
  | unasked task fault => cases hrun
  | noCalendars hyields =>
      cases List.mem_singleton.1 hrun
      obtain ⟨failure, heq, hmet⟩ := hyields.metAs hstatus
      cases heq
      exact ⟨⟨_, rfl, .calendars hmet⟩, fun d hd => ⟨_, _, List.mem_singleton.1 hd⟩⟩
  | calendars t hyields =>
      rcases List.mem_cons.1 hrun with heq | hrun
      · cases heq
        obtain ⟨failure, heq, -⟩ := hyields.metAs hstatus
        cases heq
      · cases List.mem_singleton.1 hrun
  | noEvents hwindow hfetches =>
      obtain ⟨failure, heq, hfails⟩ := hfetches.failsAt hrun hstatus
      cases heq
      exact ⟨⟨_, rfl, hfails⟩, fun d hd => hfetches.run_of_mem hd⟩
  | events t hwindow hfetches => exact (hlisted hfetches hrun nofun).elim
  | unopened hwindow hfetches hresult =>
      obtain ⟨failure, heq, -⟩ := hfetches.failsAt hrun hstatus
      cases heq
  | shown t hwindow hfetches => exact (hlisted hfetches hrun nofun).elim
  | opened command status result hwindow hfetches hne => exact (hlisted hfetches hrun nofun).elim

/-- What is left of a run in which the program that lists calendars has ended badly. -/
structure Unlisted (deeds : List Deed) (ending : Ending) (request : List Text) (e : Ended) : Prop where
  /-- Nothing is printed, and nothing is opened. -/
  silent : ∀ d ∈ deeds, (∃ path found, d = .read path found) ∨
    ∃ program arguments seconds attempt, d = .run program arguments seconds attempt
  told : ending = .status Status.failure ∨ ∃ fault, fault.IsOfOutput ∧ ending = .fault fault
  /-- Any text can be read as a listing of calendars, and as a listing of events if none of the events
  takes the last day of the calendar. -/
  legible :
    (request = Listing.calendarsRequest ∧
      (ending = .status Status.failure ↔ (∃ lines, e.lines? = some lines) ∧ e.Complains)) ∨
    ∃ path found c program seconds listing known w, .read path found ∈ deeds ∧
      found.configuration? path = some c ∧
      .run program Listing.calendarsRequest seconds listing ∈ deeds ∧ listing.Lists c known ∧
      request = Listing.eventsRequest known w ∧
      (ending = .status Status.failure ↔
        (∃ lines all, e.lines? = some lines ∧
          (Listing.readEvents known (Listing.acceptAll : Listing.Filter Empty) lines).value =
            .ok all ∧ ∀ event ∈ all, ¬event.TakesLastDay) ∧ e.Complains)

theorem FailsAt.unlisted {failure : Failure} {path : Text} {found : FileState} {program : Text}
    (hc : found.configuration? path = some c)
    (hruns : ∀ d ∈ deeds, ∃ arguments attempt, d = .run program arguments seconds attempt)
    (h : FailsAt c deeds seconds e failure request) :
    Unlisted (.read path found :: deeds) (Ending.ofResult (.error failure)) request e := by
  have hsilent : ∀ d ∈ Deed.read path found :: deeds, (∃ path found, d = .read path found) ∨
      ∃ program arguments seconds attempt, d = .run program arguments seconds attempt := by
    intro d hd
    rcases List.mem_cons.1 hd with rfl | hd
    · exact Or.inl ⟨path, found, rfl⟩
    · obtain ⟨arguments, attempt, rfl⟩ := hruns d hd
      exact Or.inr ⟨_, _, _, _, rfl⟩
  have htold {α : Type} {reader : Reader α} (hmet : MetAs e seconds reader failure) :
      Ending.ofResult (.error failure) = .status Status.failure ∨
        ∃ fault, fault.IsOfOutput ∧ Ending.ofResult (.error failure) = .fault fault := by
    rcases hmet.told with ⟨message, -, rfl⟩ | ⟨fault, hof, rfl⟩
    · exact Or.inl rfl
    · exact Or.inr ⟨fault, hof, rfl⟩
  cases h with
  | calendars hmet =>
      refine ⟨hsilent, htold hmet, Or.inl ⟨rfl, ?_⟩⟩
      rw [hmet.ending_iff, exists_reads_calendarsReader]
  | events hrun hlists hmet =>
      refine ⟨hsilent, htold hmet, Or.inr ⟨path, found, c, _, _, _, _, _, List.mem_cons_self, hc,
        List.mem_cons_of_mem _ hrun, hlists, rfl, ?_⟩⟩
      rw [hmet.ending_iff, exists_reads_eventsReader]

/-- A listing fails when the program that lists calendars ended badly, whatever it wrote, and so does the
whole program. The failure is told as one of the listing exactly if what was written can be read to
its end and what was complained of can be told; otherwise it is met as a fault of what was written. A
listing without a run of the program, because the request cannot be handed to it, fails as well. -/
theorem listing_failed (e : Ended) (hstatus : e.status ≠ 0) (lister : Text) (request : List Text)
    (seconds : Int) :
    (∀ (α : Type) (least : Nat) (reader : Reader α) (deeds : List Deed) (result : Except Failure α),
      (list least lister seconds request reader).run.Does deeds result →
      (Passable request ∧ ∃ attempt, deeds = [.run lister request seconds attempt] ∧
        (attempt = .ended e →
          ∃ failure, result = .error failure ∧ MetAs e seconds reader failure)) ∨
      ¬Passable request ∧ deeds = [] ∧ ∃ failure, result = .error failure) ∧
    ∀ (s : Surroundings) (texts : List Text) (a : Arguments) (deeds : List Deed) (ending : Ending),
      Arguments.read s.zone s.configuration (s.level.getD "WARNING".toList) texts = .ok a →
      (program s texts).Does deeds ending → .run lister request seconds (.ended e) ∈ deeds →
      Unlisted deeds ending request e := by
  constructor
  · intro α least reader deeds result h
    rcases does_list h with ⟨hpassable, attempt, rfl, hyields⟩ | hunpassable
    · refine Or.inl ⟨hpassable, attempt, rfl, ?_⟩
      rintro rfl
      exact hyields.metAs hstatus
    · exact Or.inr hunpassable
  · intro s texts a deeds ending ha h hrun
    cases does_program ha h with
    | unread ending => cases hrun
    | rejected ending hrejected => cases List.mem_singleton.1 hrun
    | performed hc hseconds hperforms =>
        rcases List.mem_cons.1 hrun with heq | hrun
        · cases heq
        · obtain ⟨⟨failure, rfl, hfails⟩, hruns⟩ := hperforms.failsAt hrun hstatus
          exact hfails.unlisted hc hruns

/-- Deeds that ask a program for the calendars. -/
def Deed.asksForCalendars (program : Text) (seconds : Int) : Deed → Bool
  | .run program' arguments seconds' _ =>
    program' = program && arguments = Listing.calendarsRequest && seconds' = seconds
  | _ => false

theorem run_mem_deeds {given : Answers} {d : Dialogue α} {program : Text} {seconds : Int}
    (h : (d.deeds given).any (Deed.asksForCalendars program seconds) = true) :
    .run program Listing.calendarsRequest seconds (given.run program Listing.calendarsRequest) ∈
      d.deeds given := by
  obtain ⟨deed, hdeed, hasks⟩ := List.any_eq_true.1 h
  cases deed with
  | run program' arguments seconds' attempt =>
      simp only [Deed.asksForCalendars, Bool.and_eq_true, decide_eq_true_eq] at hasks
      obtain ⟨⟨rfl, rfl⟩, rfl⟩ := hasks
      cases attempt_of_mem_deeds hdeed
      exact hdeed
  | _ => cases hasks

/-- A listing of calendars breaks off inside a heading with a complaint that can be read: the program ends
with its status for failures. -/
theorem listing_failed_access_denied :
    ∃ (s : Surroundings) (a : Arguments) (given : Answers) (deeds : List Deed) (ending : Ending)
        (lister : Text) (request : List Text) (seconds : Int) (e : Ended),
      e.output = Text.toUtf8 "• Wo".toList ∧ e.status = 13 ∧
      given.run lister request = .ended e ∧
      (∃ failure, ((list 20 lister seconds request calendarsReader).run.transcript given).1 =
        .error failure ∧ MetAs e seconds calendarsReader failure) ∧
      Arguments.read s.zone s.configuration (s.level.getD "WARNING".toList) ["calendars".toList] =
        .ok a ∧
      (program s ["calendars".toList]).Does deeds ending ∧
      .run lister request seconds (.ended e) ∈ deeds ∧ Unlisted deeds ending request e := by
  let s : Surroundings :=
    { home := "/home/ada".toList, now := .startOf { year := 2024, month := 5, day := 3 } .zero }
  let e : Ended :=
    { output := Text.toUtf8 "• Wo".toList, errors := Text.toUtf8 "denied".toList, status := 13 }
  let given : Answers :=
    { file := fun _ => .missing
      run := fun _ _ => .ended e
      shell := fun _ => 0 }
  let lister : Text := "icalBuddy".toList
  have harguments : Arguments.read s.zone s.configuration (s.level.getD "WARNING".toList)
      ["calendars".toList] = .ok ⟨none, "WARNING".toList, .calendars⟩ := by decide +kernel
  have hrun : .run lister Listing.calendarsRequest 30 (.ended e) ∈
      (program s ["calendars".toList]).deeds given := run_mem_deeds (by decide +kernel)
  have hfailed := listing_failed e (by decide) lister Listing.calendarsRequest 30
  refine ⟨s, _, given, _, _, lister, _, 30, e, rfl, rfl, rfl, ?_, harguments, does_deeds given _, hrun,
    hfailed.2 _ _ _ _ _ harguments (does_deeds given _) hrun⟩
  have hrun' : .run lister Listing.calendarsRequest 30 (.ended e) ∈
      (list 20 lister 30 Listing.calendarsRequest calendarsReader).run.deeds given :=
    run_mem_deeds (by decide +kernel)
  rcases hfailed.1 _ 20 calendarsReader _ _ (does_deeds given _) with
    ⟨-, attempt, hdeeds, hmet⟩ | ⟨-, hnone, -⟩
  · rw [hdeeds] at hrun'
    cases List.mem_singleton.1 hrun'
    exact hmet rfl
  · rw [hnone] at hrun'
    cases hrun'

/-- The end of the program as a status, unless it is a fault. -/
def Ending.status? : Ending → Option Nat
  | status n => some n
  | fault _ => none

/-- A listing of calendars breaks off inside a character, and the status of the program that wrote it is
lost: what is met is the cut. -/
theorem listing_failed_cut_off :
    ∃ (s : Surroundings) (given : Answers) (e : Ended),
      (∀ program arguments, given.run program arguments = .ended e) ∧ e.status = 1 ∧
      ((program s ["calendars".toList]).transcript given).2.runs = [Listing.calendarsRequest] ∧
      ((program s ["calendars".toList]).transcript given).1.status? = none := by
  refine ⟨{ home := "/home/ada".toList, now := .startOf { year := 2024, month := 5, day := 3 } .zero },
    { file := fun _ => .missing
      run := fun _ _ => .ended { output := [0xe2, 0x80, 0xa2, 0x20, 0x41, 0xc3], status := 1 }
      shell := fun _ => 0 }, _, fun _ _ => rfl, rfl, ?_⟩
  decide +kernel

end AgendaLinks.Command
