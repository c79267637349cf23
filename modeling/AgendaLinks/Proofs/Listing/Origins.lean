import AgendaLinks.Proofs.Listing.Headings
import AgendaLinks.Proofs.Listing.Sections

/-!
Where the parts of an event come from. Title and calendar are told by the heading and kept by all lines
below it; the days on which the event starts and ends are named by lines of dates, and by no others.
-/

namespace AgendaLinks

/-- An event without the properties that are told by name. -/
def Event.outline (e : Event) : Event :=
  { e with location := none, notes := none, url := none, attendees := none }

namespace Listing

open Text

/-- A line of dates names a day as the start or as the end of an event. -/
def NamesDay (line : Text) (day : Date) : Prop :=
  isDateLine line = true ∧ ∃ start finish b, rangeTexts? (trim line) = some (start, finish) ∧
    (boundary? start = some b ∨ ∃ t, finish = some t ∧ boundary? t = some b) ∧ b.on = day

theorem value_readBoundary (title t : Text) : (readBoundary title t).value = boundary? t := by
  unfold readBoundary
  cases boundary? t <;> rfl

/-- The start that a line of dates names. -/
def namedStart? (line : Text) : Option Boundary :=
  (rangeTexts? (trim line)).bind fun texts => boundary? texts.1

/-- The end that a line of dates names, which is its start when it shows no end. -/
def namedEnd? (line : Text) : Option Boundary :=
  (rangeTexts? (trim line)).bind fun texts => boundary? (texts.2.getD texts.1)

theorem value_readRange (title line : Text) :
    (readRange title (trim line)).value = (namedStart? line, namedEnd? line) := by
  unfold readRange namedStart? namedEnd?
  cases rangeTexts? (trim line) with
  | none => rfl
  | some texts =>
      obtain ⟨start, finish⟩ := texts
      cases finish <;>
        simp only [Logged.value_bind, Logged.value_pure, value_readBoundary] <;> rfl

/-- The boundaries that a line of dates sets are named in it. -/
theorem namesDay_of_readRange {title line : Text} (hline : isDateLine line = true)
    {start finish : Option Boundary} (h : (readRange title (trim line)).value = (start, finish))
    {b : Boundary} (hb : start = some b ∨ finish = some b) : NamesDay line b.on := by
  rw [value_readRange, Prod.mk.injEq] at h
  obtain ⟨rfl, rfl⟩ := h
  rcases hb with hstart | hend
  · obtain ⟨⟨first, last⟩, hrange, hread⟩ := Option.bind_eq_some_iff.1 hstart
    exact ⟨hline, first, last, b, hrange, Or.inl hread, rfl⟩
  · obtain ⟨⟨first, last⟩, hrange, hread⟩ := Option.bind_eq_some_iff.1 hend
    refine ⟨hline, first, last, b, hrange, ?_, rfl⟩
    -- a line without an end names its start as the end
    cases last with
    | none => exact Or.inl hread
    | some t => exact Or.inr ⟨t, rfl, hread⟩

theorem outline_setProperty (e : Event) (value : Text) (p : Property) :
    (setProperty e value p).outline = e.outline := by
  cases p <;> rfl

theorem outline_extendProperty (e : Event) (value : Text) (p : Property) :
    (extendProperty e value p).outline = e.outline := by
  cases p <;> rfl

namespace Draft

theorem outline_extend (d : Draft) (p : Property) (line : Text) :
    (d.extend p line).event.outline = d.event.outline := by
  have hspaced (n : Nat) :
      (Nat.repeat (fun e => extendProperty e [] p) n d.event).outline = d.event.outline := by
    induction n with
    | zero => rfl
    | succ n ih => rw [Nat.repeat, outline_extendProperty, ih]
  show (extendProperty _ _ p).outline = _
  rw [outline_extendProperty, hspaced]

theorem outline_setNamed (d : Draft) (name value : Text) :
    (d.setNamed name value).value.event.outline = d.event.outline := by
  unfold setNamed
  dsimp only
  split
  · exact outline_setProperty _ _ _
  · rfl

/-- All that a line does: a line of dates sets them, and any other keeps the outline of the event. -/
theorem readLine_cases (d : Draft) (line : Text) :
    (d.readLine line).value.event.outline = d.event.outline ∨
      ∃ start finish, isDateLine line = true ∧
        (readRange d.event.title (trim line)).value = (start, finish) ∧
        (d.readLine line).value = d.setDates start finish := by
  have hheader : (d.readHeader line).value.event.outline = d.event.outline ∨
      ∃ start finish, isDateLine line = true ∧
        (readRange d.event.title (trim line)).value = (start, finish) ∧
        (d.readHeader line).value = d.setDates start finish := by
    unfold readHeader
    by_cases hdate : isDateLine line = true
    · rw [if_pos hdate]
      exact Or.inr ⟨_, _, hdate, rfl, rfl⟩
    · rw [if_neg hdate]
      left
      cases property? propertyIndent line with
      | none => rfl
      | some named => exact outline_setNamed d named.1 named.2
  unfold readLine
  by_cases hblank : isBlankLine line = true
  · rw [if_pos hblank]
    left
    show d.skipBlank.event.outline = _
    unfold skipBlank
    split_ifs <;> rfl
  · rw [if_neg hblank]
    cases d.active with
    | none => exact hheader
    | some p =>
        dsimp only
        by_cases hfurther : isContinuation line = true
        · rw [if_pos hfurther]
          exact Or.inl (outline_extend d p line)
        · rw [if_neg hfurther]
          exact hheader

/-- An event starts or ends on a day. -/
def Touches (d : Draft) (day : Date) : Prop :=
  d.event.startOn = some day ∨ d.event.endOn = some day

theorem touches_of_outline {d d' : Draft} (h : d'.event.outline = d.event.outline) {day : Date}
    (hday : d'.Touches day) : d.Touches day := by
  have hstart : d'.event.outline.startOn = d.event.outline.startOn := by rw [h]
  have hend : d'.event.outline.endOn = d.event.outline.endOn := by rw [h]
  change d'.event.startOn = d.event.startOn at hstart
  change d'.event.endOn = d.event.endOn at hend
  rwa [Touches, hstart, hend] at hday

theorem touches_setDates {d : Draft} {start finish : Option Boundary} {day : Date}
    (h : (d.setDates start finish).Touches day) :
    d.Touches day ∨ ∃ b, (start = some b ∨ finish = some b) ∧ b.on = day := by
  unfold Touches at h ⊢
  cases start with
  | none =>
      cases finish with
      | none => exact Or.inl h
      | some b =>
          rcases h with hstart | hend
          · exact Or.inl (Or.inl hstart)
          · exact Or.inr ⟨b, Or.inr rfl, Option.some.inj hend⟩
  | some b =>
      rcases h with hstart | hend
      · cases finish <;> exact Or.inr ⟨b, Or.inl rfl, Option.some.inj hstart⟩
      · cases finish with
        | none => exact Or.inl (Or.inr hend)
        | some b' => exact Or.inr ⟨b', Or.inr rfl, Option.some.inj hend⟩

/-- A day that an event touches after a line was touched before or is named in the line. -/
theorem touches_readLine {d : Draft} {line : Text} {day : Date}
    (h : (d.readLine line).value.Touches day) : d.Touches day ∨ NamesDay line day := by
  rcases d.readLine_cases line with hsame | ⟨start, finish, hdate, hrange, hset⟩
  · exact Or.inl (touches_of_outline hsame h)
  · rw [hset] at h
    rcases touches_setDates h with hbefore | ⟨b, hb, rfl⟩
    · exact Or.inl hbefore
    · exact Or.inr (namesDay_of_readRange hdate hrange hb)

theorem touches_readLines {d : Draft} {lines : List Text} {day : Date}
    (h : (d.readLines lines).value.Touches day) :
    d.Touches day ∨ ∃ line ∈ lines, NamesDay line day := by
  induction lines generalizing d with
  | nil => exact Or.inl h
  | cons line lines ih =>
      rw [readLines, Logged.value_bind] at h
      rcases ih h with hfirst | ⟨later, hlater, hnames⟩
      · rcases touches_readLine hfirst with hbefore | hnames
        · exact Or.inl hbefore
        · exact Or.inr ⟨line, List.mem_cons_self, hnames⟩
      · exact Or.inr ⟨later, List.mem_cons_of_mem _ hlater, hnames⟩

/-- The title, the calendar and the links of an event. -/
def heading (e : Event) : Text × Text × List Text := (e.title, e.calendar, e.urls)

theorem heading_readLine (d : Draft) (line : Text) :
    heading (d.readLine line).value.event = heading d.event := by
  rcases d.readLine_cases line with hsame | ⟨start, finish, -, -, hset⟩
  · show heading (d.readLine line).value.event.outline = heading d.event.outline
    rw [hsame]
  · rw [hset]
    cases start <;> cases finish <;> rfl

theorem heading_readLines (d : Draft) (lines : List Text) :
    heading (d.readLines lines).value.event = heading d.event := by
  induction lines generalizing d with
  | nil => rfl
  | cons line lines ih => rw [readLines, Logged.value_bind, ih, heading_readLine]

end Draft

/-- What the event of a section is made of: the heading, and then its lines one after the other. -/
theorem Section.value_event_eq_some {titles : List Text} {s : Section} {e : Event}
    (h : (s.event titles).value = some e) : ∃ title calendar,
      splitHeading (isCalendar titles) s.heading = some (title, calendar) ∧
        e = (Draft.readLines { event := { title, calendar } } s.body).value.event := by
  unfold Section.event startEvent at h
  cases hsplit : splitHeading (isCalendar titles) s.heading with
  | none =>
      rw [hsplit] at h
      cases h
  | some parts =>
      rw [hsplit] at h
      cases h
      exact ⟨parts.1, parts.2, rfl, rfl⟩

/-- The calendar of an event is a known one, if any is known. -/
theorem Section.calendar_mem {titles : List Text} (hne : titles ≠ []) {s : Section} {e : Event}
    (h : (s.event titles).value = some e) : e.calendar ∈ titles := by
  obtain ⟨title, calendar, hsplit, rfl⟩ := Section.value_event_eq_some h
  have hkept := Draft.heading_readLines { event := { title, calendar } } s.body
  have hcalendar : (Draft.readLines { event := { title, calendar } } s.body).value.event.calendar =
      calendar := congrArg (·.2.1) hkept
  rw [hcalendar]
  have hknown := (splits_of_splitHeading hsplit).known
  rw [isCalendar_eq_contains hne] at hknown
  exact List.contains_iff_mem.1 hknown

/-- Reading a listing gives an event no links. -/
theorem Section.urls_event {titles : List Text} {s : Section} {e : Event}
    (h : (s.event titles).value = some e) : e.urls = [] := by
  obtain ⟨title, calendar, -, rfl⟩ := Section.value_event_eq_some h
  exact congrArg (·.2.2) (Draft.heading_readLines { event := { title, calendar } } s.body)

/-- The days of an event are named in the lines of its section. -/
theorem Section.exists_namesDay {titles : List Text} {s : Section} {e : Event}
    (h : (s.event titles).value = some e) {day : Date}
    (hday : e.startOn = some day ∨ e.endOn = some day) : ∃ line ∈ s.body, NamesDay line day := by
  obtain ⟨title, calendar, -, rfl⟩ := Section.value_event_eq_some h
  rcases Draft.touches_readLines hday with hbefore | hnames
  · simp [Draft.Touches] at hbefore
  · exact hnames

/-- The lines of a section are lines of the listing without their ends. -/
theorem exists_of_mem_splitFrom (read : Nat) (lines : List Text) :
    (∀ line ∈ (splitFrom read lines).1, ∃ raw ∈ lines, line = chomp raw) ∧
      ∀ s ∈ (splitFrom read lines).2, ∀ line ∈ s.body, ∃ raw ∈ lines, line = chomp raw := by
  induction lines generalizing read with
  | nil => exact ⟨nofun, nofun⟩
  | cons raw rest ih =>
      obtain ⟨hbody, hsections⟩ := ih (read + 1)
      have hlater {line : Text} (h : ∃ raw ∈ rest, line = chomp raw) :
          ∃ raw' ∈ raw :: rest, line = chomp raw' :=
        h.imp fun _ hraw => ⟨List.mem_cons_of_mem _ hraw.1, hraw.2⟩
      cases hraw : afterBullet? (chomp raw) with
      | some heading =>
          obtain ⟨reach, hsplit⟩ := splitFrom_of_bullet read rest hraw
          rw [hsplit]
          refine ⟨nofun, fun s hs line hline => ?_⟩
          rcases List.mem_cons.1 hs with rfl | hs
          · exact hlater (hbody line hline)
          · exact hlater (hsections s hs line hline)
      | none =>
          rw [splitFrom_of_not_bullet read rest hraw]
          refine ⟨fun line hline => ?_, fun s hs line hline => hlater (hsections s hs line hline)⟩
          rcases List.mem_cons.1 hline with rfl | hline
          · exact ⟨raw, List.mem_cons_self, rfl⟩
          · exact hlater (hbody line hline)

/-- The days of the events of a listing are named in its lines. -/
theorem exists_namesDay_of_mem_eventsIn {titles lines : List Text} {e : Event}
    (he : e ∈ eventsIn titles (unplacedSections lines)) {day : Date}
    (hday : e.startOn = some day ∨ e.endOn = some day) : ∃ raw ∈ lines, NamesDay (chomp raw) day := by
  rw [unplacedSections, eventsIn_unplaced, eventsIn, List.mem_filterMap] at he
  obtain ⟨s, hs, hevent⟩ := he
  obtain ⟨line, hline, hnames⟩ := s.exists_namesDay hevent hday
  obtain ⟨raw, hraw, rfl⟩ := (exists_of_mem_splitFrom 0 lines).2 s hs line hline
  exact ⟨raw, hraw, hnames⟩

end Listing

end AgendaLinks
