import AgendaLinks.Proofs.Command.Listings
import AgendaLinks.Proofs.Link.Readability
import AgendaLinks.Proofs.Listing.Windows

/-!
What the filters let through. Events are returned of calendars that were listed and that the configuration
includes, and only those that are in the window; each is told by the lines of its own entry. The
program is not even asked for events when no calendar is included, since the reader of its answer would
take every heading for one of an event then.
-/

namespace AgendaLinks

/-- An event without its links. -/
def Event.unlinked (e : Event) : Event := { e with urls := [] }

namespace Link

/-- Processing events changes nothing of them but the links. -/
theorem map_unlinked_processEvents (c : Configuration) (es : List Event) :
    (processEvents c es).value.map Event.unlinked = es.map Event.unlinked := by
  rw [value_processEvents, List.map_map]
  apply List.map_congr_left
  intro e _
  show Event.unlinked (withLinks c e).value.1 = e.unlinked
  rw [value_withLinks_eq]
  rfl

end Link

namespace Listing

/-- The events of a listing have no links yet. -/
theorem unlinked_of_mem_eventsIn {titles : List Text} {found : List Section} {e : Event}
    (he : e ∈ eventsIn titles found) : e.unlinked = e := by
  obtain ⟨s, -, hs⟩ := List.mem_filterMap.1 he
  show { e with urls := [] } = e
  rw [← s.urls_event hs]

/-- The events of a listing are of known calendars, if there are any. -/
theorem calendar_mem_of_mem_eventsIn {titles : List Text} (hne : titles ≠ []) {found : List Section}
    {e : Event} (he : e ∈ eventsIn titles found) : e.calendar ∈ titles := by
  obtain ⟨s, -, hs⟩ := List.mem_filterMap.1 he
  exact s.calendar_mem hne hs

/-- Without known calendars every heading that ends in parentheses begins an event. -/
theorem readEvents_of_any_suffix {title calendar : Text} {rest : List Text} (htitle : '\n' ∉ title)
    (hne : calendar ≠ []) (hcalendar : '\n' ∉ calendar) (hrest : ∀ line ∈ rest, isBullet line = false) :
    ∃ e, (readEvents [] (acceptAll : Filter Empty)
      ((bullet ++ (title ++ (" (".toList ++ (calendar ++ [')'])))) :: rest)).value = .ok [e] := by
  have hchomp : chomp (bullet ++ (title ++ (" (".toList ++ (calendar ++ [')'])))) =
      bullet ++ (title ++ (" (".toList ++ (calendar ++ [')']))) := by
    simp [chomp]
  have hknown : isCalendar [] calendar = true := by
    simp [isCalendar, hne, hcalendar]
  obtain ⟨⟨title', calendar'⟩, hsplit⟩ := Splits.exists_splitHeading ⟨rfl, htitle, hknown⟩
  have hheading : afterBullet? (chomp (bullet ++ (title ++ (" (".toList ++ (calendar ++ [')']))))) =
      some (title ++ (" (".toList ++ (calendar ++ [')']))) := by
    rw [hchomp, afterBullet?_bullet_append]
  have hstart : startEvent [] (title ++ (" (".toList ++ (calendar ++ [')']))) =
      some { title := title', calendar := calendar' } := by
    rw [startEvent, hsplit]
    rfl
  exact ⟨_, value_readEvents_of_startEvent hheading hstart hrest⟩

end Listing

namespace Command

open Dialogue

/-- A program ended well and wrote some lines. -/
def Attempt.Writes (attempt : Attempt) (lines : List Text) : Prop :=
  ∃ e, attempt = .ended e ∧ e.status = 0 ∧ e.lines? = some lines

/-- What is returned of a listing of events when some calendars were listed. -/
structure Selects (c : Configuration) (w : Window) (all : List Calendar) (lines : List Text)
    (events : List Event) : Prop where
  calendar : ∀ e ∈ events, ∃ k ∈ all, c.includes k.title = true ∧ e.calendar = k.title
  inside : ∀ e ∈ events, w.includes e = .ok true
  /-- But for the links, the events are told one by one by the lines of the entries, and by the calendars
  that are included: an entry that is read on its own gives the same event. -/
  told : ∃ preamble entries found, lines = preamble ++ List.flatten entries ∧
    (∀ line ∈ preamble, Listing.isBullet line = false) ∧ (∀ entry ∈ entries, Listing.IsEntry entry) ∧
    List.Forall₂ (fun entry e =>
      (Listing.readEvents (included c all)
        (Listing.acceptAll : Listing.Filter Empty) entry).value = .ok (Option.toList e)) entries found ∧
    events.map Event.unlinked = (found.filterMap id).filter fun e => w.includes e = .ok true

/-- What is done and returned after the calendars were asked for. -/
structure Filtered (lister : Text) (seconds : Int) (c : Configuration) (w : Window)
    (attempt : Attempt) (later : List Deed) (result : Except Failure (List Event)) : Prop where
  /-- Events of no calendar are not asked for. -/
  excluded : ∀ lines, attempt.Writes lines →
    (∀ k ∈ Listing.calendars lines, c.includes k.title = false) → later = [] ∧ result = .ok []
  selected : ∀ events, result = .ok events → ∃ lines, attempt.Writes lines ∧
    ((∀ k ∈ Listing.calendars lines, c.includes k.title = false) ∨
      ∃ attempt' lines', later = [.run lister
          (Listing.eventsRequest (included c (Listing.calendars lines)) w) seconds attempt'] ∧
        attempt'.Writes lines' ∧ Selects c w (Listing.calendars lines) lines' events)

variable {c : Configuration} {w : Window}

theorem included_eq_nil_iff {all : List Calendar} :
    included c all = [] ↔ ∀ k ∈ all, c.includes k.title = false := by
  rw [included, List.filter_eq_nil_iff]
  simp

theorem selects_of_readEvents {all : List Calendar} {lines : List Text} {es : List Event}
    (hne : included c all ≠ [])
    (h : (Listing.readEvents (included c all) w.includes lines).value = .ok es) :
    Selects c w all lines (Link.processEvents c es).value := by
  have hes := Listing.eq_filter_of_readEvents _ w lines h
  have hunlinked : (Link.processEvents c es).value.map Event.unlinked = es := by
    rw [Link.map_unlinked_processEvents]
    calc es.map Event.unlinked = es.map id := by
          apply List.map_congr_left
          intro e he
          rw [hes] at he
          exact Listing.unlinked_of_mem_eventsIn (List.mem_filter.1 he).1
      _ = es := List.map_id es
  -- the links have no part in the calendar of an event and in whether it is in the window
  have hread : ∀ e ∈ (Link.processEvents c es).value, e.unlinked ∈ Listing.eventsIn
      ((included c all).map (·.title)) (Listing.unplacedSections lines) ∧
      w.includes e.unlinked = .ok true := by
    intro e he
    have hmem : e.unlinked ∈ es := by
      rw [← hunlinked]
      exact List.mem_map_of_mem he
    rw [hes, List.mem_filter] at hmem
    exact ⟨hmem.1, of_decide_eq_true hmem.2⟩
  refine ⟨fun e he => ?_, fun e he => (hread e he).2, ?_⟩
  · have hknown := Listing.calendar_mem_of_mem_eventsIn (by simpa using hne) (hread e he).1
    obtain ⟨k, hk, htitle⟩ := List.mem_map.1 hknown
    obtain ⟨hall, hincluded⟩ := List.mem_filter.1 hk
    exact ⟨k, hall, hincluded, htitle.symm⟩
  · obtain ⟨preamble, entries, rfl, hpreamble, hentries⟩ := Listing.exists_entries lines
    refine ⟨preamble, entries,
      entries.map (Listing.entryEvent? ((included c all).map (·.title))), rfl, hpreamble, hentries, ?_, ?_⟩
    · rw [List.forall₂_map_right_iff, List.forall₂_same]
      intro entry hentry
      rw [Listing.value_readEvents_acceptAll, Listing.eventsIn_entry _ (hentries entry hentry)]
    · rw [hunlinked, hes,
        Listing.unplacedSections_append preamble (Listing.startsEntry_flatten hentries),
        Listing.unplacedSections_of_no_bullet hpreamble, List.nil_append,
        Listing.eventsIn_flatten _ hentries]

/-- If a listing was read and some of its calendars are included, its lines list one of them. -/
theorem not_excluded {e : Ended} {all : List Calendar} (hreads : e.Reads calendarsReader all)
    (hne : included c all ≠ []) {lines : List Text} (hlines : (Attempt.ended e).Writes lines) :
    ¬∀ k ∈ Listing.calendars lines, c.includes k.title = false := by
  obtain ⟨read, hread, rfl⟩ := reads_calendarsReader.1 hreads
  obtain ⟨e', he', -, hlines'⟩ := hlines
  cases he'
  rw [hread, Option.some.injEq] at hlines'
  subst hlines'
  exact fun hexcluded => hne (included_eq_nil_iff.2 hexcluded)

/-- Whatever the programs answer, the first of them is asked for the calendars. If it ended well and the
configuration includes none of what it listed, nothing more is asked for and nothing is returned,
though without known calendars every heading would do. Otherwise what is returned has been selected. -/
theorem listEvents_filtered {least : Nat} {lister : Text} {seconds : Int} {deeds : List Deed}
    {result : Except Failure (List Event)}
    (h : (listEvents least lister seconds c w).run.Does deeds result) :
    (∃ attempt later, deeds = .run lister Listing.calendarsRequest seconds attempt :: later ∧
      Filtered lister seconds c w attempt later result) ∧
    ∀ title calendar rest, '\n' ∉ title → calendar ≠ [] → '\n' ∉ calendar →
      (∀ line ∈ rest, Listing.isBullet line = false) →
      ∃ e, (Listing.readEvents [] (Listing.acceptAll : Listing.Filter Empty)
        ((Listing.bullet ++ (title ++ (" (".toList ++ (calendar ++ [')'])))) :: rest)).value =
          .ok [e] := by
  refine ⟨?_, fun title calendar rest => Listing.readEvents_of_any_suffix⟩
  cases does_listEvents h with
  | @failed attempt fault hyields =>
      refine ⟨attempt, [], rfl, ?_, nofun⟩
      rintro lines ⟨e, rfl, hstatus, hlines⟩ -
      have hreads := reads_calendarsReader.2 ⟨lines, hlines, rfl⟩
      cases hyields with
      | unread hunread hof => exact absurd hreads (hunread _)
      | failed hreads hfailed hcomplaint => exact absurd hstatus hfailed
      | unexplained hreads hfailed hcomplaint => exact absurd hstatus hfailed
  | @unknown attempt all hyields hempty =>
      refine ⟨attempt, [], rfl, fun lines _ _ => ⟨rfl, rfl⟩, fun events hevents => ?_⟩
      obtain ⟨e, rfl, hstatus, hreads⟩ := hyields.ended
      obtain ⟨lines, hlines, rfl⟩ := reads_calendarsReader.1 hreads
      exact ⟨lines, ⟨e, rfl, hstatus, hlines⟩, Or.inl (included_eq_nil_iff.1 hempty)⟩
  | @unaskable attempt all known fault hyields hknown hne hunpassable =>
      subst hknown
      obtain ⟨e, rfl, hstatus, hreads⟩ := hyields.ended
      exact ⟨_, [], rfl, fun lines hlines hexcluded => absurd hexcluded (not_excluded hreads hne hlines),
        nofun⟩
  | @listed attempt attempt' all known found hyields hknown hne hyields' =>
      subst hknown
      obtain ⟨e, rfl, hstatus, hreads⟩ := hyields.ended
      obtain ⟨lines, hlines, rfl⟩ := reads_calendarsReader.1 hreads
      refine ⟨_, _, rfl, fun lines' hlines' hexcluded => ?_, fun events hevents => ?_⟩
      · exact absurd hexcluded (not_excluded hreads hne hlines')
      · refine ⟨lines, ⟨e, rfl, hstatus, hlines⟩, Or.inr ?_⟩
        obtain ⟨es, rfl, rfl⟩ := exists_of_map_eq_ok hevents
        obtain ⟨e', rfl, hstatus', lines', hlines', hvalue⟩ := hyields'.ended
        exact ⟨_, lines', rfl, ⟨e', rfl, hstatus', hlines'⟩, selects_of_readEvents hne hvalue⟩

/-- The title of an included calendar ends in parentheses itself, and an excluded calendar is named in a
heading of its own: its event and the notes below it are left out. -/
theorem listEvents_filtered_nested_parentheses :
    ∃ (c : Configuration) (w : Window) (deeds : List Deed) (result : Except Failure (List Event)),
      (listEvents 20 "icalBuddy".toList 30 c w).run.Does deeds result ∧
      (result.toOption.map fun events => events.map fun e => (e.title, e.calendar, e.notes)) =
        some [("Call".toList, "Work (A)".toList, none)] ∧
      ∃ attempt later, deeds = .run "icalBuddy".toList Listing.calendarsRequest 30 attempt :: later ∧
        Filtered "icalBuddy".toList 30 c w attempt later result := by
  let given : Answers :=
    { file := fun _ => .missing
      run := fun _ arguments => .ended {
        output := Text.toUtf8 <|
          if arguments = Listing.calendarsRequest then "• Work (A)\n• A\n".toList
          else "• Call (Work (A))\n• Walk (A)\n    notes: a\n".toList }
      shell := fun _ => 0 }
  let c : Configuration := { calendars := [.literal "Work (A)".toList] }
  let w : Window := ⟨.startOf { year := 2024, month := 5, day := 3 } .zero,
    .startOf { year := 2024, month := 5, day := 4 } .zero⟩
  exact ⟨c, w, _, _, does_deeds given _, by decide +kernel,
    (listEvents_filtered (does_deeds given _)).1⟩

end Command

end AgendaLinks
