import AgendaLinks.Listing.Events
import AgendaLinks.Proofs.Listing.Lines
import Mathlib.Data.List.Forall2

/-!
A listing is read section by section. Cutting a listing before a bullet cuts its sections, and the event
of a section is told by the section alone, so the events of a listing are those of its sections one after
the other. A test that answers for every event only picks from them.
-/

namespace AgendaLinks.Listing

/-- Listings that are empty or begin with an entry. -/
def StartsEntry (lines : List Text) : Prop := ∀ line ∈ lines.head?, isBullet line = true

/-- A section without the number of lines up to its end. -/
def Section.unplaced (s : Section) : Section := { s with reach := 0 }

/-- The sections of a listing without the numbers of lines up to their ends. -/
def unplacedSections (lines : List Text) : List Section := (sections lines).map Section.unplaced

theorem splitFrom_of_bullet (read : Nat) {raw : Text} (rest : List Text) {heading : Text}
    (hraw : afterBullet? (chomp raw) = some heading) :
    ∃ reach, splitFrom read (raw :: rest) =
      ([], ⟨heading, (splitFrom (read + 1) rest).1, reach⟩ :: (splitFrom (read + 1) rest).2) := by
  rw [splitFrom]
  simp only [hraw]
  exact ⟨_, rfl⟩

theorem splitFrom_of_not_bullet (read : Nat) {raw : Text} (rest : List Text)
    (hraw : afterBullet? (chomp raw) = none) :
    splitFrom read (raw :: rest) =
      (chomp raw :: (splitFrom (read + 1) rest).1, (splitFrom (read + 1) rest).2) := by
  rw [splitFrom]
  simp only [hraw]

/-- The number of lines read before has no part in the contents of the sections. -/
theorem splitFrom_unplaced (m n : Nat) (lines : List Text) :
    (splitFrom m lines).1 = (splitFrom n lines).1 ∧
      (splitFrom m lines).2.map Section.unplaced = (splitFrom n lines).2.map Section.unplaced := by
  induction lines generalizing m n with
  | nil => exact ⟨rfl, rfl⟩
  | cons raw rest ih =>
      obtain ⟨hbody, hsections⟩ := ih (m + 1) (n + 1)
      cases hraw : afterBullet? (chomp raw) with
      | some heading =>
          obtain ⟨reach, hm⟩ := splitFrom_of_bullet m rest hraw
          obtain ⟨reach', hn⟩ := splitFrom_of_bullet n rest hraw
          rw [hm, hn]
          refine ⟨rfl, ?_⟩
          rw [List.map_cons, List.map_cons, hsections]
          simp only [Section.unplaced, hbody]
      | none =>
          rw [splitFrom_of_not_bullet m rest hraw, splitFrom_of_not_bullet n rest hraw]
          exact ⟨by rw [hbody], hsections⟩

theorem splitFrom_fst_of_startsEntry (read : Nat) {lines : List Text} (h : StartsEntry lines) :
    (splitFrom read lines).1 = [] := by
  cases lines with
  | nil => rfl
  | cons raw rest =>
      have hraw : isBullet (chomp raw) = true := by
        rw [isBullet_chomp]
        exact h raw rfl
      obtain ⟨heading, hheading⟩ := Option.isSome_iff_exists.1 hraw
      obtain ⟨reach, hsplit⟩ := splitFrom_of_bullet read rest hheading
      rw [hsplit]

/-- What follows the cut adds no line to a section before it. -/
theorem splitFrom_append (read : Nat) (before : List Text) {after : List Text}
    (hafter : StartsEntry after) :
    (splitFrom read (before ++ after)).1 = (splitFrom read before).1 ∧
      (splitFrom read (before ++ after)).2.map Section.unplaced =
        (splitFrom read before).2.map Section.unplaced ++ unplacedSections after := by
  -- the number of lines read before grows on the way, so the induction is for every number
  induction before generalizing read with
  | nil =>
      refine ⟨splitFrom_fst_of_startsEntry read hafter, ?_⟩
      exact (splitFrom_unplaced read 0 after).2
  | cons raw before ih =>
      obtain ⟨hbody, hsections⟩ := ih (read + 1)
      rw [List.cons_append]
      cases hraw : afterBullet? (chomp raw) with
      | some heading =>
          obtain ⟨reach, hwhole⟩ := splitFrom_of_bullet read (before ++ after) hraw
          obtain ⟨reach', hpart⟩ := splitFrom_of_bullet read before hraw
          rw [hwhole, hpart]
          refine ⟨rfl, ?_⟩
          rw [List.map_cons, List.map_cons, List.cons_append, hsections]
          simp only [Section.unplaced, hbody]
      | none =>
          rw [splitFrom_of_not_bullet read (before ++ after) hraw,
            splitFrom_of_not_bullet read before hraw]
          exact ⟨by rw [hbody], hsections⟩

theorem unplacedSections_append (before : List Text) {after : List Text}
    (hafter : StartsEntry after) :
    unplacedSections (before ++ after) = unplacedSections before ++ unplacedSections after :=
  (splitFrom_append 0 before hafter).2

/-- Lines without a bullet go on with what stands before them. -/
theorem splitFrom_append_of_no_bullet (read : Nat) {lines : List Text} (rest : List Text)
    (h : ∀ line ∈ lines, isBullet line = false) :
    splitFrom read (lines ++ rest) =
      (lines.map chomp ++ (splitFrom (read + lines.length) rest).1,
        (splitFrom (read + lines.length) rest).2) := by
  induction lines generalizing read with
  | nil => rfl
  | cons raw lines ih =>
      have hraw : afterBullet? (chomp raw) = none := by
        rw [afterBullet?_eq_none_iff, isBullet_chomp]
        exact h raw List.mem_cons_self
      have hread : read + (raw :: lines).length = read + 1 + lines.length := by
        rw [List.length_cons]
        omega
      rw [List.cons_append, splitFrom_of_not_bullet read _ hraw,
        ih (read + 1) fun line hline => h line (List.mem_cons_of_mem _ hline), hread]
      rfl

/-- Lines without a bullet make no section. -/
theorem splitFrom_of_no_bullet (read : Nat) {lines : List Text}
    (h : ∀ line ∈ lines, isBullet line = false) :
    splitFrom read lines = (lines.map chomp, []) := by
  have happend := splitFrom_append_of_no_bullet read [] h
  rwa [List.append_nil, splitFrom, List.append_nil] at happend

theorem splitFrom_map_chomp (read : Nat) (lines : List Text) :
    splitFrom read (lines.map chomp) = splitFrom read lines := by
  induction lines generalizing read with
  | nil => rfl
  | cons raw rest ih =>
      rw [List.map_cons, splitFrom, splitFrom, chomp_chomp, ih (read + 1)]

theorem unplacedSections_map_chomp (lines : List Text) :
    unplacedSections (lines.map chomp) = unplacedSections lines := by
  rw [unplacedSections, sections, splitFrom_map_chomp]
  rfl

/-- The lines of one entry: a line with a bullet and lines without. -/
def IsEntry (lines : List Text) : Prop :=
  ∃ first rest, lines = first :: rest ∧ isBullet first = true ∧ ∀ line ∈ rest, isBullet line = false

/-- An entry is one section: what follows the bullet, and the other lines. -/
theorem unplacedSections_entry {first : Text} {rest : List Text} {heading : Text}
    (hfirst : afterBullet? (chomp first) = some heading)
    (hrest : ∀ line ∈ rest, isBullet line = false) :
    unplacedSections (first :: rest) = [⟨heading, rest.map chomp, 0⟩] := by
  obtain ⟨reach, hsplit⟩ := splitFrom_of_bullet 0 rest hfirst
  rw [unplacedSections, sections, hsplit, splitFrom_of_no_bullet 1 hrest]
  rfl

theorem startsEntry_flatten {entries : List (List Text)} (h : ∀ entry ∈ entries, IsEntry entry) :
    StartsEntry entries.flatten := by
  cases entries with
  | nil =>
      intro line hline
      cases hline
  | cons entry entries =>
      obtain ⟨first, rest, rfl, hfirst, -⟩ := h entry List.mem_cons_self
      intro line hline
      rw [List.flatten_cons, List.cons_append, List.head?_cons, Option.mem_some_iff] at hline
      rw [← hline]
      exact hfirst

/-- Every listing is one of entries, after some lines that belong to none. -/
theorem exists_entries (lines : List Text) : ∃ preamble entries,
    lines = preamble ++ List.flatten entries ∧ (∀ line ∈ preamble, isBullet line = false) ∧
      ∀ entry ∈ entries, IsEntry entry := by
  induction lines with
  | nil => exact ⟨[], [], rfl, nofun, nofun⟩
  | cons line lines ih =>
      obtain ⟨preamble, entries, rfl, hpreamble, hentries⟩ := ih
      by_cases hline : isBullet line = true
      · refine ⟨[], (line :: preamble) :: entries, by simp, nofun, ?_⟩
        intro entry hentry
        rcases List.mem_cons.1 hentry with rfl | hentry
        · exact ⟨line, preamble, rfl, hline, hpreamble⟩
        · exact hentries entry hentry
      · refine ⟨line :: preamble, entries, by simp, ?_, hentries⟩
        intro other hother
        rcases List.mem_cons.1 hother with rfl | hother
        · exact Bool.not_eq_true _ ▸ hline
        · exact hpreamble other hother

/-- A listing of entries falls into the sections of the entries. -/
theorem unplacedSections_flatten {entries : List (List Text)}
    (h : ∀ entry ∈ entries, IsEntry entry) :
    unplacedSections entries.flatten = entries.flatMap unplacedSections := by
  induction entries with
  | nil => rfl
  | cons entry entries ih =>
      have hrest : ∀ entry ∈ entries, IsEntry entry := fun e he => h e (List.mem_cons_of_mem _ he)
      rw [List.flatten_cons, unplacedSections_append entry (startsEntry_flatten hrest), ih hrest,
        List.flatMap_cons]

/-- The test with an answer for every event. -/
def decidedBy {ε : Type} (accept : Event → Bool) : Filter ε := fun e => .ok (accept e)

/-- The events that sections describe. -/
def eventsIn (titles : List Text) (found : List Section) : List Event :=
  found.filterMap fun s => (s.event titles).value

theorem eventsIn_cons (titles : List Text) (s : Section) (rest : List Section) :
    eventsIn titles (s :: rest) = (s.event titles).value.toList ++ eventsIn titles rest := by
  rw [eventsIn, List.filterMap_cons]
  cases (s.event titles).value <;> rfl

theorem eventsIn_append (titles : List Text) (first second : List Section) :
    eventsIn titles (first ++ second) = eventsIn titles first ++ eventsIn titles second :=
  List.filterMap_append

theorem eventsIn_unplaced (titles : List Text) (found : List Section) :
    eventsIn titles (found.map Section.unplaced) = eventsIn titles found := by
  rw [eventsIn, List.filterMap_map]
  rfl

section

variable {ε : Type} (accept : Filter ε)

/-- The events that pass a test, which is asked of one after the other up to the first one that it fails
on. -/
def pick : List Event → Except ε (List Event)
  | [] => .ok []
  | e :: es => do
    let keep ← accept e
    let rest ← pick es
    return if keep then e :: rest else rest

theorem value_eventsOfSections (titles : List Text) (found : List Section) :
    (eventsOfSections titles accept found).value.map (fun read => read.map (·.2)) =
      pick accept (eventsIn titles found) := by
  induction found with
  | nil => rfl
  | cons s rest ih =>
      rw [eventsOfSections, Logged.value_bind, eventsIn_cons]
      cases (s.event titles).value with
      | none => exact ih
      | some e =>
          rw [Option.toList_some, List.singleton_append, pick, ← ih]
          cases haccept : accept e with
          | error fault => simp only [haccept]; rfl
          | ok keep =>
              simp only [haccept, Logged.value_bind, Logged.value_pure]
              cases (eventsOfSections titles accept rest).value with
              | error fault => rfl
              | ok read => cases keep <;> rfl

/-- What is read of a listing is picked from the events of its sections. -/
theorem value_readEvents_eq_pick (known : List Calendar) (lines : List Text) :
    (readEvents known accept lines).value =
      pick accept (eventsIn (known.map (·.title)) (unplacedSections lines)) := by
  rw [unplacedSections, eventsIn_unplaced, ← value_eventsOfSections, readEvents, Logged.value_bind,
    eventsWithReach]
  cases (eventsOfSections (known.map (·.title)) accept (sections lines)).value with
  | error fault => rfl
  | ok read => rfl

end

theorem pick_decidedBy {ε : Type} (accept : Event → Bool) (es : List Event) :
    pick (decidedBy accept : Filter ε) es = .ok (es.filter accept) := by
  induction es with
  | nil => rfl
  | cons e es ih =>
      rw [pick, ih, List.filter_cons]
      rfl

/-- What is read of a listing are the events of its sections that pass the test. -/
theorem value_readEvents {ε : Type} (known : List Calendar) (accept : Event → Bool)
    (lines : List Text) :
    (readEvents known (decidedBy accept : Filter ε) lines).value =
      .ok ((eventsIn (known.map (·.title)) (unplacedSections lines)).filter accept) := by
  rw [value_readEvents_eq_pick, pick_decidedBy]

/-- The events that are given out while a listing is read, each where its section ends. -/
theorem value_eventsWithReach {ε : Type} (titles : List Text) (accept : Event → Bool)
    (lines : List Text) :
    (eventsWithReach titles (decidedBy accept : Filter ε) lines).value =
      .ok ((sections lines).filterMap fun s =>
        ((s.event titles).value.filter accept).map fun e => (s.reach, e)) := by
  rw [eventsWithReach]
  induction sections lines with
  | nil => rfl
  | cons s rest ih =>
      rw [eventsOfSections, Logged.value_bind, List.filterMap_cons]
      cases (s.event titles).value with
      | none => exact ih
      | some e =>
          simp only [decidedBy, Logged.value_bind, Logged.value_pure, ih, Option.filter_some]
          cases accept e <;> rfl

theorem acceptAll_eq {ε : Type} : (acceptAll : Filter ε) = decidedBy fun _ => true := rfl

theorem value_readEvents_acceptAll {ε : Type} (known : List Calendar) (lines : List Text) :
    (readEvents known (acceptAll : Filter ε) lines).value =
      .ok (eventsIn (known.map (·.title)) (unplacedSections lines)) := by
  rw [acceptAll_eq, value_readEvents, List.filter_true]

/-- What is read of one entry is the event of its section, if there is one. -/
theorem value_readEvents_entry {ε : Type} (known : List Calendar) {first heading : Text}
    {rest : List Text} (hfirst : afterBullet? (chomp first) = some heading)
    (hrest : ∀ line ∈ rest, isBullet line = false) :
    (readEvents known (acceptAll : Filter ε) (first :: rest)).value =
      .ok (Section.event (known.map (·.title)) ⟨heading, rest.map chomp, 0⟩).value.toList := by
  rw [value_readEvents_acceptAll, unplacedSections_entry hfirst hrest, eventsIn_cons]
  exact congrArg Except.ok (List.append_nil _)

theorem value_readEvents_of_startEvent {ε : Type} {known : List Calendar} {first heading : Text}
    {rest : List Text} {e : Event} (hfirst : afterBullet? (chomp first) = some heading)
    (hstart : startEvent (known.map (·.title)) heading = some e)
    (hrest : ∀ line ∈ rest, isBullet line = false) :
    (readEvents known (acceptAll : Filter ε) (first :: rest)).value =
      .ok [(Draft.readLines { event := e } (rest.map chomp)).value.event] := by
  rw [value_readEvents_entry known hfirst hrest, Section.event, hstart]
  rfl

/-- The event of an entry, if its heading names a known calendar. -/
def entryEvent? (titles : List Text) (entry : List Text) : Option Event :=
  (eventsIn titles (unplacedSections entry)).head?

theorem eventsIn_entry (titles : List Text) {entry : List Text} (h : IsEntry entry) :
    eventsIn titles (unplacedSections entry) = (entryEvent? titles entry).toList := by
  obtain ⟨first, rest, rfl, hfirst, hrest⟩ := h
  rw [← isBullet_chomp] at hfirst
  obtain ⟨heading, hheading⟩ := Option.isSome_iff_exists.1 hfirst
  rw [entryEvent?, unplacedSections_entry hheading hrest, eventsIn_cons]
  cases (Section.event titles ⟨heading, rest.map chomp, 0⟩).value <;> rfl

theorem eventsIn_flatten (titles : List Text) {entries : List (List Text)}
    (h : ∀ entry ∈ entries, IsEntry entry) :
    eventsIn titles (unplacedSections entries.flatten) =
      (entries.map (entryEvent? titles)).filterMap id := by
  rw [unplacedSections_flatten h]
  induction entries with
  | nil => rfl
  | cons entry entries ih =>
      rw [List.flatMap_cons, eventsIn_append, eventsIn_entry titles (h entry List.mem_cons_self),
        ih fun e he => h e (List.mem_cons_of_mem _ he), List.map_cons]
      cases entryEvent? titles entry <;> rfl

theorem unplacedSections_of_no_bullet {lines : List Text}
    (h : ∀ line ∈ lines, isBullet line = false) : unplacedSections lines = [] := by
  rw [unplacedSections, sections, splitFrom_of_no_bullet 0 h]
  rfl

/-- A listing may be cut before any bullet, whether its heading names a known calendar or not, and
tested while it is read or afterwards: the events are the same. So each entry has at most one event,
which its own lines tell, and lines before the first bullet have none. -/
theorem readEvents_append {ε : Type} (known : List Calendar) (accept : Event → Bool) :
    (∀ before after : List Text, StartsEntry after → ∃ first second : List Event,
      (readEvents known (acceptAll : Filter ε) before).value = .ok first ∧
      (readEvents known (acceptAll : Filter ε) after).value = .ok second ∧
      (readEvents known (decidedBy accept : Filter ε) (before ++ after)).value =
        .ok (first.filter accept ++ second.filter accept)) ∧
    (∀ (preamble : List Text) (entries : List (List Text)),
      (∀ line ∈ preamble, isBullet line = false) → (∀ entry ∈ entries, IsEntry entry) →
      ∃ events : List (Option Event),
        List.Forall₂ (fun entry found =>
          (readEvents known (acceptAll : Filter ε) entry).value = .ok found.toList) entries events ∧
        (readEvents known (decidedBy accept : Filter ε) (preamble ++ entries.flatten)).value =
          .ok ((events.filterMap id).filter accept)) := by
  constructor
  · intro before after hafter
    refine ⟨_, _, value_readEvents_acceptAll known before, value_readEvents_acceptAll known after, ?_⟩
    rw [value_readEvents, unplacedSections_append before hafter, eventsIn_append, List.filter_append]
  · intro preamble entries hpreamble hentries
    refine ⟨entries.map (entryEvent? (known.map (·.title))), ?_, ?_⟩
    · rw [List.forall₂_map_right_iff, List.forall₂_same]
      intro entry hentry
      rw [value_readEvents_acceptAll, eventsIn_entry _ (hentries entry hentry)]
    · rw [value_readEvents, unplacedSections_append preamble (startsEntry_flatten hentries),
        unplacedSections_of_no_bullet hpreamble, List.nil_append, eventsIn_flatten _ hentries]

/-- The heading of another calendar ends the entry before it, and its lines belong to no event. -/
theorem readEvents_append_unknown_calendar :
    StartsEntry ["• B (Private)".toList, "    notes: b".toList] ∧
    (∀ line ∈ ["Today:".toList], isBullet line = false) ∧
    (∀ entry ∈ [["• A (Work)".toList, "    notes: a".toList]], IsEntry entry) ∧
    (∃ first second : List Event,
      (readEvents [⟨"Work".toList, none, none⟩] (acceptAll : Filter Empty)
        ["• A (Work)".toList, "    notes: a".toList]).value = .ok first ∧
      (readEvents [⟨"Work".toList, none, none⟩] (acceptAll : Filter Empty)
        ["• B (Private)".toList, "    notes: b".toList]).value = .ok second ∧
      (readEvents [⟨"Work".toList, none, none⟩]
        (decidedBy (fun e => e.notes.isSome) : Filter Empty)
        (["• A (Work)".toList, "    notes: a".toList] ++
          ["• B (Private)".toList, "    notes: b".toList])).value =
        .ok (first.filter (fun e => e.notes.isSome) ++ second.filter fun e => e.notes.isSome)) ∧
    ∃ events : List (Option Event),
      List.Forall₂ (fun entry found =>
        (readEvents [⟨"Work".toList, none, none⟩] (acceptAll : Filter Empty) entry).value =
          .ok found.toList) [["• A (Work)".toList, "    notes: a".toList]] events ∧
      (readEvents [⟨"Work".toList, none, none⟩]
        (decidedBy (fun e => e.notes.isSome) : Filter Empty)
        (["Today:".toList] ++ [["• A (Work)".toList, "    notes: a".toList]].flatten)).value =
        .ok ((events.filterMap id).filter fun e => e.notes.isSome) := by
  have hstarts : StartsEntry ["• B (Private)".toList, "    notes: b".toList] := by
    intro line hline
    cases hline
    rfl
  have hpreamble : ∀ line ∈ ["Today:".toList], isBullet line = false := by decide
  have hentries : ∀ entry ∈ [["• A (Work)".toList, "    notes: a".toList]], IsEntry entry := by
    intro entry hentry
    rw [List.mem_singleton] at hentry
    exact ⟨_, _, hentry, by decide, by decide⟩
  exact ⟨hstarts, hpreamble, hentries, (readEvents_append _ _).1 _ _ hstarts,
    (readEvents_append _ _).2 _ _ hpreamble hentries⟩

end AgendaLinks.Listing
