import AgendaLinks.Proofs.Command.Courses
import AgendaLinks.Proofs.Listing.Requests

/-!
All or nothing: what the program leaves behind is a result or nothing. It prints only if it succeeds,
starts nothing without a configuration, asks for events only when calendars were listed that are included,
and has a shell carry out one command at most, when nothing else is left that can fail. The calendars that
it asks for are exactly the included ones if no identifier among them holds a comma.
-/

namespace AgendaLinks.Command

open Dialogue

/-- Every deed has a property together with those before it. -/
def EachAfter (P : List Deed → Deed → Prop) (deeds : List Deed) : Prop :=
  ∀ before d after, deeds = before ++ d :: after → P before d

variable {P : List Deed → Deed → Prop} {deeds : List Deed}

theorem eachAfter_nil : EachAfter P [] := by
  intro before d after h
  cases before <;> cases h

theorem eachAfter_cons {d : Deed} : EachAfter P (d :: deeds) ↔
    P [] d ∧ EachAfter (fun before => P (d :: before)) deeds := by
  constructor
  · intro h
    exact ⟨h [] d deeds rfl, fun before d' after heq => h (d :: before) d' after (by rw [heq]; rfl)⟩
  · rintro ⟨hd, hdeeds⟩ (_ | ⟨d', before⟩) d'' after heq
    · cases heq
      exact hd
    · cases heq
      exact hdeeds before d'' after rfl

theorem eachAfter_append {second : List Deed} : EachAfter P (deeds ++ second) ↔
    EachAfter P deeds ∧ EachAfter (fun before => P (deeds ++ before)) second := by
  induction deeds generalizing P with
  | nil => exact (and_iff_right eachAfter_nil).symm
  | cons d deeds ih =>
      rw [List.cons_append, eachAfter_cons, eachAfter_cons, ih, and_assoc]
      rfl

/-- What has to be done before a deed. Events of the window are asked for only of the calendars that the
configuration includes of those listed, if there are any; a shell carries out a command only to open a
link, when calendars and events have been listed to the end. -/
def Permitted (now : Stamp) (a : Arguments) (before : List Deed) : Deed → Prop
  | .run program arguments seconds _ => arguments = Listing.calendarsRequest ∨
      ∃ path found c listing known w, .read path found ∈ before ∧ found.configuration? path = some c ∧
        .run program Listing.calendarsRequest seconds listing ∈ before ∧ listing.Lists c known ∧
        known ≠ [] ∧ a.task.HasWindow now w ∧ arguments = Listing.eventsRequest known w ∧
        Listing.AsksFor arguments known w
  | .shell _ _ => (∃ limits, a.task = .openFirst limits false) ∧
      ∃ program seconds known w e e', known ≠ [] ∧ a.task.HasWindow now w ∧
        .run program Listing.calendarsRequest seconds (.ended e) ∈ before ∧ e.status = 0 ∧
        .run program (Listing.eventsRequest known w) seconds (.ended e') ∈ before ∧ e'.status = 0
  | _ => True

def Deed.isShell : Deed → Bool
  | .shell _ _ => true
  | _ => false

/-- What holds of all that the program does. -/
structure AllOrNothing (s : Surroundings) (a : Arguments) (deeds : List Deed) (ending : Ending) :
    Prop where
  /-- Whatever is printed is the result of a success. -/
  printed : ∀ t, .print t ∈ deeds → ending = .status Status.success
  /-- Without a configuration or a number of seconds no more is done than to read a file. -/
  rejected : (∀ path found, .read path found ∈ deeds → found.configuration? path = none) ∨
    s.seconds? = none → ∀ d ∈ deeds, ∃ path found, d = .read path found
  permitted : ∀ before d after, deeds = before ++ d :: after → Permitted s.now a before d
  once : deeds.countP Deed.isShell ≤ 1

variable {lister : Text} {seconds : Int} {c : Configuration} {w : Window}

theorem Fetches.run_of_mem {result : Except Failure (List Event)}
    (h : Fetches lister seconds c w deeds result) {d : Deed} (hd : d ∈ deeds) :
    ∃ arguments attempt, d = .run lister arguments seconds attempt := by
  cases h with
  | failed hyields => exact ⟨_, _, List.mem_singleton.1 hd⟩
  | unknown hyields hnone => exact ⟨_, _, List.mem_singleton.1 hd⟩
  | unaskable hyields hknown hne hunpassable => exact ⟨_, _, List.mem_singleton.1 hd⟩
  | listed hyields hknown hne hyields' =>
      rcases List.mem_cons.1 hd with rfl | hd
      · exact ⟨_, _, rfl⟩
      · exact ⟨_, _, List.mem_singleton.1 hd⟩

/-- If there are events, both listings have been made to the end. -/
theorem Fetches.ended {events : List Event} (h : Fetches lister seconds c w deeds (.ok events))
    (hne : events ≠ []) : ∃ known e e', known ≠ [] ∧
      .run lister Listing.calendarsRequest seconds (.ended e) ∈ deeds ∧ e.status = 0 ∧
      .run lister (Listing.eventsRequest known w) seconds (.ended e') ∈ deeds ∧ e'.status = 0 := by
  generalize hresult : Except.ok events = result at h
  cases h with
  | failed hyields => cases hresult
  | unknown hyields hnone =>
      cases hresult
      exact absurd rfl hne
  | unaskable hyields hknown hsome hunpassable => cases hresult
  | listed hyields hknown hsome hyields' =>
      obtain ⟨found, rfl, -⟩ := exists_of_map_eq_ok hresult.symm
      obtain ⟨e, rfl, hstatus, -⟩ := hyields.ended
      obtain ⟨e', rfl, hstatus', -⟩ := hyields'.ended
      exact ⟨_, e, e', hsome, List.mem_cons_self, hstatus, List.mem_cons_of_mem _ List.mem_cons_self,
        hstatus'⟩

variable {now : Stamp} {a : Arguments} {path : Text} {found : FileState}

theorem Fetches.permitted {result : Except Failure (List Event)} (hc : found.configuration? path = some c)
    (hwindow : a.task.HasWindow now w) (h : Fetches lister seconds c w deeds result) :
    EachAfter (fun before => Permitted now a (.read path found :: before)) deeds := by
  cases h with
  | failed hyields => exact eachAfter_cons.2 ⟨Or.inl rfl, eachAfter_nil⟩
  | unknown hyields hnone => exact eachAfter_cons.2 ⟨Or.inl rfl, eachAfter_nil⟩
  | unaskable hyields hknown hne hunpassable => exact eachAfter_cons.2 ⟨Or.inl rfl, eachAfter_nil⟩
  | listed hyields hknown hne hyields' =>
      subst hknown
      refine eachAfter_cons.2 ⟨Or.inl rfl, eachAfter_cons.2 ⟨Or.inr ?_, eachAfter_nil⟩⟩
      exact ⟨path, found, c, _, _, w, List.mem_cons_self, hc,
        List.mem_cons_of_mem _ List.mem_cons_self, hyields.lists, hne, hwindow, rfl,
        Listing.asksFor_eventsRequest hne w⟩

theorem Performs.permitted {result : Except Failure Nat} (hc : found.configuration? path = some c)
    (h : Performs now lister seconds c a.task deeds result) :
    EachAfter (fun before => Permitted now a (.read path found :: before)) deeds := by
  generalize htask : a.task = task at h
  cases h with
  | unasked task fault => exact eachAfter_nil
  | noCalendars hyields => exact eachAfter_cons.2 ⟨Or.inl rfl, eachAfter_nil⟩
  | calendars t hyields =>
      exact eachAfter_cons.2 ⟨Or.inl rfl, eachAfter_cons.2 ⟨trivial, eachAfter_nil⟩⟩
  | noEvents hwindow hfetches => exact hfetches.permitted hc (htask ▸ hwindow)
  | events t hwindow hfetches =>
      exact eachAfter_append.2
        ⟨hfetches.permitted hc (htask ▸ hwindow), eachAfter_cons.2 ⟨trivial, eachAfter_nil⟩⟩
  | unopened hwindow hfetches hresult => exact hfetches.permitted hc (htask ▸ hwindow)
  | shown t hwindow hfetches =>
      exact eachAfter_append.2
        ⟨hfetches.permitted hc (htask ▸ hwindow), eachAfter_cons.2 ⟨trivial, eachAfter_nil⟩⟩
  | @opened limits w _ _ command status _ hwindow hfetches hne =>
      refine eachAfter_append.2 ⟨hfetches.permitted hc (htask ▸ hwindow),
        eachAfter_cons.2 ⟨⟨⟨limits, htask⟩, ?_⟩, eachAfter_nil⟩⟩
      obtain ⟨known, e, e', hknown, hrun, hstatus, hrun', hstatus'⟩ := hfetches.ended hne
      rw [List.append_nil]
      exact ⟨lister, seconds, known, w, e, e', hknown, htask ▸ hwindow, List.mem_cons_of_mem _ hrun,
        hstatus, List.mem_cons_of_mem _ hrun', hstatus'⟩

theorem Fetches.not_print {result : Except Failure (List Event)}
    (h : Fetches lister seconds c w deeds result) (t : Text) : .print t ∉ deeds := by
  intro ht
  obtain ⟨arguments, attempt, heq⟩ := h.run_of_mem ht
  cases heq

theorem Performs.printed {task : Task} {result : Except Failure Nat}
    (h : Performs now lister seconds c task deeds result) {t : Text} (ht : .print t ∈ deeds) :
    result = .ok Status.success := by
  cases h with
  | unasked task fault => cases ht
  | noCalendars hyields => cases List.mem_singleton.1 ht
  | calendars t' hyields => rfl
  | noEvents hwindow hfetches => exact absurd ht (hfetches.not_print t)
  | events t' hwindow hfetches => rfl
  | unopened hwindow hfetches hresult => exact absurd ht (hfetches.not_print t)
  | shown t' hwindow hfetches => rfl
  | opened command status result hwindow hfetches hne =>
      rcases List.mem_append.1 ht with ht | ht
      · exact absurd ht (hfetches.not_print t)
      · cases List.mem_singleton.1 ht

theorem Fetches.countP_isShell {result : Except Failure (List Event)}
    (h : Fetches lister seconds c w deeds result) : deeds.countP Deed.isShell = 0 := by
  cases h <;> rfl

theorem Performs.countP_isShell {task : Task} {result : Except Failure Nat}
    (h : Performs now lister seconds c task deeds result) : deeds.countP Deed.isShell ≤ 1 := by
  cases h with
  | unasked task fault => exact Nat.zero_le 1
  | noCalendars hyields => exact Nat.zero_le 1
  | calendars t hyields => exact Nat.zero_le 1
  | noEvents hwindow hfetches =>
      rw [hfetches.countP_isShell]
      exact Nat.zero_le 1
  | events t hwindow hfetches =>
      rw [List.countP_append, hfetches.countP_isShell]
      exact Nat.zero_le 1
  | unopened hwindow hfetches hresult =>
      rw [hfetches.countP_isShell]
      exact Nat.zero_le 1
  | shown t hwindow hfetches =>
      rw [List.countP_append, hfetches.countP_isShell]
      exact Nat.zero_le 1
  | opened command status result hwindow hfetches hne =>
      rw [List.countP_append, hfetches.countP_isShell]
      exact Nat.le_refl 1

/-- Whatever the files hold, the programs answer and the shell says, the program is all or nothing. -/
theorem program_all_or_nothing {s : Surroundings} {texts : List Text} {ending : Ending}
    (ha : Arguments.read s.zone s.configuration (s.level.getD "WARNING".toList) texts = .ok a)
    (h : (program s texts).Does deeds ending) : AllOrNothing s a deeds ending := by
  cases does_program ha h with
  | unread ending => exact ⟨nofun, fun _ => nofun, eachAfter_nil, Nat.zero_le 1⟩
  | rejected ending hrejected =>
      refine ⟨fun t ht => ?_, fun _ d hd => ⟨_, _, List.mem_singleton.1 hd⟩,
        eachAfter_cons.2 ⟨trivial, eachAfter_nil⟩, Nat.zero_le 1⟩
      cases List.mem_singleton.1 ht
  | performed hc hseconds hperforms =>
      refine ⟨fun t ht => ?_, fun hrejected => ?_, eachAfter_cons.2 ⟨trivial, hperforms.permitted hc⟩,
        hperforms.countP_isShell⟩
      · rcases List.mem_cons.1 ht with heq | ht
        · cases heq
        · rw [hperforms.printed ht]
          rfl
      · rcases hrejected with hnone | hnone
        · rw [hnone _ _ List.mem_cons_self] at hc
          cases hc
        · rw [hnone] at hseconds
          cases hseconds

/-- Both listings succeed and the command for the link fails: it was carried out once, and the shell was
reached with the calendars and the events listed to the end. -/
theorem program_all_or_nothing_opener_fails :
    ∃ (s : Surroundings) (a : Arguments) (deeds : List Deed) (ending : Ending),
      Arguments.read s.zone s.configuration (s.level.getD "WARNING".toList) ["open".toList] = .ok a ∧
      (program s ["open".toList]).Does deeds ending ∧ deeds.countP Deed.isShell = 1 ∧
      AllOrNothing s a deeds ending := by
  let given : Answers :=
    { file := fun _ => .missing
      run := fun _ arguments =>
        if arguments = Listing.calendarsRequest then .ended { output := Text.toUtf8 "• Work\n".toList }
        else .ended { output := Text.toUtf8 "• Call (Work)\n    url: https://a.org/x\n".toList }
      shell := fun _ => 3 }
  refine ⟨{ home := "/home/ada".toList, now := .startOf { year := 2024, month := 5, day := 3 } .zero },
    ⟨none, "WARNING".toList, .openFirst {} false⟩, _, _, ?arguments, does_deeds given _, ?once,
    program_all_or_nothing ?arguments (does_deeds given _)⟩
  case arguments => decide +kernel
  case once => decide +kernel

/-- The configuration includes one calendar only, whose title holds a comma, and the program asks for the
events of the two excluded calendars that are named on the sides of the comma. -/
theorem program_asks_for_excluded :
    ∃ (s : Surroundings) (a : Arguments) (given : Answers) (path : Text) (e : Ended)
        (lines request : List Text),
      Arguments.read s.zone s.configuration (s.level.getD "WARNING".toList) ["events".toList] = .ok a ∧
      configurationPath s a.configuration = .ok path ∧
      given.run "icalBuddy".toList Listing.calendarsRequest = .ended e ∧ e.status = 0 ∧
      e.lines? = some lines ∧ (Listing.calendars lines).map (·.title) =
        ["A,B".toList, "A".toList, "B".toList] ∧
      (((given.file path).configuration? path).map fun c =>
        (included c (Listing.calendars lines)).map (·.title)) = some ["A,B".toList] ∧
      ((program s ["events".toList]).transcript given).2.runs = [Listing.calendarsRequest, request] ∧
      Listing.namedIn request = some ["A".toList, "B".toList] := by
  let given : Answers :=
    { file := fun _ => .content (Text.toUtf8 "'calendars': ['A,B']\n".toList)
      run := fun _ arguments =>
        if arguments = Listing.calendarsRequest then
          .ended { output := Text.toUtf8 "• A,B\n• A\n• B\n".toList }
        else .ended {}
      shell := fun _ => 0 }
  let s : Surroundings :=
    { home := "/home/ada".toList, now := .startOf { year := 2024, month := 5, day := 3 } .zero }
  let w : Window := ⟨s.now, .startOf { year := 2024, month := 5, day := 4 } .zero⟩
  refine ⟨s, ⟨none, "WARNING".toList, .events {}⟩, given, "/home/ada/.config/meeting-urls/config.yml".toList,
    _, ["• A,B\n".toList, "• A\n".toList, "• B\n".toList],
    Listing.eventsRequest [{ title := "A,B".toList }] w, ?_, rfl, rfl, rfl, ?_⟩
  · decide +kernel
  · decide +kernel

end AgendaLinks.Command
