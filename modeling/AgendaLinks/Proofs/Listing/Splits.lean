import AgendaLinks.Proofs.Listing.Origins

/-!
Which title and which calendar an event has. A heading begins an event exactly if it ends in a known
calendar in parentheses, and is then the title and the calendar written together again. Of several
calendars that it ends in, the one with the longest title before it is taken: that is the shortest, and so
the longest only where no other one fits.
-/

namespace AgendaLinks.Listing

open Text

/-- A heading ends in a calendar in parentheses. -/
def EndsIn (heading calendar : Text) : Prop := " (".toList ++ (calendar ++ [')']) <:+ heading

instance (heading calendar : Text) : Decidable (EndsIn heading calendar) :=
  inferInstanceAs (Decidable (_ <:+ _))

theorem EndsIn.splits {known : Text → Bool} {heading calendar : Text} (h : EndsIn heading calendar)
    (hone : '\n' ∉ heading) (hknown : known calendar = true) :
    ∃ title, Splits known heading title calendar := by
  obtain ⟨title, rfl⟩ := h
  exact ⟨title, rfl, fun hmem => hone (List.mem_append_left _ hmem), hknown⟩

theorem Splits.endsIn {known : Text → Bool} {heading title calendar : Text}
    (h : Splits known heading title calendar) : EndsIn heading calendar := ⟨title, h.eq.symm⟩

theorem Splits.length_add {known : Text → Bool} {heading title calendar : Text}
    (h : Splits known heading title calendar) :
    heading.length = title.length + (calendar.length + 3) := by
  rw [h.eq]
  simp

/-- A title over several lines is longer than one of a single line, so the calendar behind it is not. -/
theorem Splits.length_le_of_several_lines {known : Text → Bool}
    {heading title calendar title' calendar' : Text} (h : Splits known heading title calendar)
    (heq : heading = title' ++ (" (".toList ++ (calendar' ++ [')']))) (hmem : '\n' ∈ title') :
    calendar'.length ≤ calendar.length := by
  have hstart : title <+: heading := ⟨_, h.eq.symm⟩
  have hstart' : title' <+: heading := ⟨_, heq.symm⟩
  have hlength : title.length ≤ title'.length := by
    rcases List.prefix_or_prefix_of_prefix hstart hstart' with hshort | hlong
    · exact hshort.length_le
    · exact absurd (hlong.subset hmem) h.one_line
  have hadd := h.length_add
  have hadd' : heading.length = title'.length + (calendar'.length + 3) := by
    rw [heq]
    simp
  omega

theorem contains_title_iff {known : List Calendar} {t : Text} :
    (known.map (·.title)).contains t = true ↔ ∃ k ∈ known, t = k.title := by
  rw [List.contains_iff_mem, List.mem_map]
  exact exists_congr fun k => and_congr_right fun _ => eq_comm

theorem startEvent_eq_some_iff {titles : List Text} {heading : Text} {e : Event} :
    startEvent titles heading = some e ↔
      splitHeading (isCalendar titles) heading = some (e.title, e.calendar) ∧
        e = { title := e.title, calendar := e.calendar } := by
  rw [startEvent, Option.map_eq_some_iff]
  constructor
  · rintro ⟨⟨title, calendar⟩, hsplit, rfl⟩
    exact ⟨hsplit, rfl⟩
  · rintro ⟨hsplit, he⟩
    exact ⟨_, hsplit, he.symm⟩

theorem splits_of_startEvent {titles : List Text} (hne : titles ≠ []) {heading : Text} {e : Event}
    (h : startEvent titles heading = some e) : Splits titles.contains heading e.title e.calendar := by
  rw [← isCalendar_eq_contains hne]
  exact splits_of_splitHeading (startEvent_eq_some_iff.1 h).1

theorem exists_startEvent_iff {titles : List Text} (hne : titles ≠ []) {heading : Text} :
    (∃ e, startEvent titles heading = some e) ↔
      ∃ title calendar, Splits titles.contains heading title calendar := by
  constructor
  · rintro ⟨e, h⟩
    exact ⟨_, _, splits_of_startEvent hne h⟩
  · rintro ⟨title, calendar, h⟩
    rw [← isCalendar_eq_contains hne] at h
    obtain ⟨split, hsplit⟩ := h.exists_splitHeading
    exact ⟨_, congrArg (Option.map _) hsplit⟩

/-- The lines below a heading change nothing of what it tells. -/
theorem Section.map_heading_event (titles : List Text) (s : Section) :
    (s.event titles).value.map Draft.heading = (startEvent titles s.heading).map Draft.heading := by
  unfold Section.event
  cases startEvent titles s.heading with
  | none => rfl
  | some e => exact congrArg some (Draft.heading_readLines { event := e } s.body)

/-- Where calendars are known, a line with a bullet begins an event exactly if its heading ends in one of
them in parentheses. The heading is then the title of the event, and the calendar, which is a known one, in
parentheses behind it. That is the event of the whole entry as well, whatever lines stand below. -/
theorem startEvent_splits_exactly {ε : Type} {known : List Calendar} (hne : known ≠ [])
    {first heading : Text} (hfirst : afterBullet? (chomp first) = some heading)
    (hone : '\n' ∉ heading) :
    ((∃ e, startEvent (known.map (·.title)) heading = some e) ↔
      ∃ k ∈ known, EndsIn heading k.title) ∧
    (∀ e, startEvent (known.map (·.title)) heading = some e →
      heading = e.title ++ (" (".toList ++ (e.calendar ++ [')'])) ∧ ∃ k ∈ known, e.calendar = k.title) ∧
    ∀ rest, (∀ line ∈ rest, isBullet line = false) → ∃ found : Option Event,
      (readEvents known (acceptAll : Filter ε) (first :: rest)).value = .ok found.toList ∧
      found.map Draft.heading =
        (startEvent (known.map (·.title)) heading).map Draft.heading := by
  have htitles : known.map (·.title) ≠ [] := by
    simpa using hne
  refine ⟨?_, fun e h => ?_, fun rest hrest => ?_⟩
  · rw [exists_startEvent_iff htitles]
    constructor
    · rintro ⟨title, calendar, h⟩
      obtain ⟨k, hk, rfl⟩ := contains_title_iff.1 h.known
      exact ⟨k, hk, h.endsIn⟩
    · rintro ⟨k, hk, h⟩
      obtain ⟨title, htitle⟩ := h.splits hone (contains_title_iff.2 ⟨k, hk, rfl⟩)
      exact ⟨title, k.title, htitle⟩
  · have hsplits := splits_of_startEvent htitles h
    exact ⟨hsplits.eq, contains_title_iff.1 hsplits.known⟩
  · exact ⟨_, value_readEvents_entry known hfirst hrest, Section.map_heading_event _ _⟩

/-- A calendar whose title would mean something else in a pattern, behind a title with parentheses. -/
theorem startEvent_splits_exactly_marks :
    [(⟨"a.c|(".toList, none, none⟩ : Calendar)] ≠ [] ∧
    afterBullet? (chomp "• Sync (abc) (a.c|()\r\n".toList) = some "Sync (abc) (a.c|()".toList ∧
    '\n' ∉ "Sync (abc) (a.c|()".toList ∧
    EndsIn "Sync (abc) (a.c|()".toList "a.c|(".toList ∧
    ∃ e, startEvent ["a.c|(".toList] "Sync (abc) (a.c|()".toList = some e ∧
      "Sync (abc) (a.c|()".toList = e.title ++ (" (".toList ++ (e.calendar ++ [')'])) ∧
      ∃ k ∈ [(⟨"a.c|(".toList, none, none⟩ : Calendar)], e.calendar = k.title := by
  have hne : [(⟨"a.c|(".toList, none, none⟩ : Calendar)] ≠ [] := List.cons_ne_nil _ _
  have hfirst : afterBullet? (chomp "• Sync (abc) (a.c|()\r\n".toList) =
      some "Sync (abc) (a.c|()".toList := by decide
  have hone : '\n' ∉ "Sync (abc) (a.c|()".toList := by decide
  have hends : EndsIn "Sync (abc) (a.c|()".toList "a.c|(".toList := ⟨"Sync (abc)".toList, rfl⟩
  obtain ⟨hiff, hsplit, -⟩ := startEvent_splits_exactly (ε := Empty) hne hfirst hone
  obtain ⟨e, he⟩ := hiff.2 ⟨_, List.mem_singleton_self _, hends⟩
  exact ⟨hne, hfirst, hone, hends, e, he, hsplit e he⟩

/-- The longer the title, the shorter the calendar behind it. -/
theorem Splits.length_le_iff {known : Text → Bool} {heading title calendar title' calendar' : Text}
    (h : Splits known heading title calendar) (h' : Splits known heading title' calendar') :
    title'.length ≤ title.length ↔ calendar.length ≤ calendar'.length := by
  have hadd := h.length_add
  have hadd' := h'.length_add
  omega

theorem startEvent_eq_some_iff_least {titles : List Text} (hne : titles ≠ []) {heading : Text}
    {e : Event} :
    startEvent titles heading = some e ↔
      e = { title := e.title, calendar := e.calendar } ∧
        Splits titles.contains heading e.title e.calendar ∧
        ∀ title t, Splits titles.contains heading title t → e.calendar.length ≤ t.length := by
  rw [startEvent_eq_some_iff, isCalendar_eq_contains hne, splitHeading_eq_some_iff, and_comm]
  refine and_congr_right fun _ => and_congr_right fun he => ?_
  exact forall_congr' fun title => forall_congr' fun t => imp_congr_right he.length_le_iff

/-- Of the known calendars that a heading ends in behind a title of one line, the event is of the
shortest. So it is of the longest that the heading ends in only if no other one leaves a title of one
line. -/
theorem startEvent_shortest {titles : List Text} (hne : titles ≠ []) (heading : Text) :
    (∀ e, startEvent titles heading = some e ↔
      e = { title := e.title, calendar := e.calendar } ∧
        Splits titles.contains heading e.title e.calendar ∧
        ∀ title t, Splits titles.contains heading title t → e.calendar.length ≤ t.length) ∧
    ∀ e, startEvent titles heading = some e →
      ((∀ t ∈ titles, EndsIn heading t → t.length ≤ e.calendar.length) ↔
        ∀ title t, Splits titles.contains heading title t → t = e.calendar) := by
  refine ⟨fun e => startEvent_eq_some_iff_least hne, fun e hstart => ?_⟩
  obtain ⟨-, he, hleast⟩ := (startEvent_eq_some_iff_least hne).1 hstart
  constructor
  · intro hlongest title t h
    have hlength := Nat.le_antisymm
      (hlongest t (List.contains_iff_mem.1 h.known) h.endsIn) (hleast title t h)
    have hlonger : title.length ≤ e.title.length := (he.length_le_iff h).2 hlength.ge
    have hshorter : e.title.length ≤ title.length := (h.length_le_iff he).2 hlength.le
    exact (h.eq_of_length he (Nat.le_antisymm hlonger hshorter)).2
  · intro honly t ht hends
    obtain ⟨title, htitle⟩ := hends
    by_cases hone : '\n' ∈ title
    · exact he.length_le_of_several_lines htitle.symm hone
    · have h : Splits titles.contains heading title t :=
        ⟨htitle.symm, hone, List.contains_iff_mem.2 ht⟩
      rw [honly title t h]

/-- Of a calendar and a longer one that has its title in parentheses only the longer one fits. -/
theorem startEvent_shortest_shared :
    ["Shared".toList, "Work (Shared)".toList] ≠ [] ∧
    startEvent ["Shared".toList, "Work (Shared)".toList] "Plan (Work (Shared))".toList =
      some { title := "Plan".toList, calendar := "Work (Shared)".toList } ∧
    ∀ t ∈ ["Shared".toList, "Work (Shared)".toList], EndsIn "Plan (Work (Shared))".toList t →
      t.length ≤ "Work (Shared)".toList.length := by
  have hne : ["Shared".toList, "Work (Shared)".toList] ≠ [] := List.cons_ne_nil _ _
  have hstart : startEvent ["Shared".toList, "Work (Shared)".toList] "Plan (Work (Shared))".toList =
      some { title := "Plan".toList, calendar := "Work (Shared)".toList } := by decide
  have honly : ∀ title t, Splits ["Shared".toList, "Work (Shared)".toList].contains
      "Plan (Work (Shared))".toList title t → t = "Work (Shared)".toList := by
    intro title t h
    rcases List.mem_pair.1 (List.contains_iff_mem.1 h.known) with rfl | rfl
    · exact absurd h.endsIn (by decide)
    · rfl
  exact ⟨hne, hstart, ((startEvent_shortest hne _).2 _ hstart).2 honly⟩

/-- Both calendars fit, and the event is of the shorter one. -/
theorem startEvent_shorter_wins :
    (readEvents [⟨"Home".toList, none, none⟩, ⟨"Trips (Home".toList, none, none⟩]
      (acceptAll : Filter Empty) ["• Rome (Trips (Home)".toList]).value =
        .ok [{ title := "Rome (Trips".toList, calendar := "Home".toList }] ∧
    EndsIn "Rome (Trips (Home)".toList "Trips (Home".toList ∧
    "Home".toList.length < "Trips (Home".toList.length := by
  refine ⟨by decide +kernel, ⟨"Rome".toList, rfl⟩, by decide⟩

end AgendaLinks.Listing
