import AgendaLinks.Proofs.Listing.Origins
import AgendaLinks.Proofs.Time.Printed
import Mathlib.Data.Option.Basic

/-!
The dates of an event. A line of dates sets the point in time and the day of a boundary together or leaves
both as they are, and no other line touches them. So in every event that is read, a point in time lies on
the day beside it and in whole seconds; that it has an offset is part of what it is.
-/

namespace AgendaLinks

namespace Time

theorem micro_of_clockThen? {t rest : Text} {c : Clock} (h : clockThen? t = some (c, rest)) :
    c.micro = 0 := by
  simp only [clockThen?, Option.bind_eq_bind, Option.bind_eq_some_iff] at h
  obtain ⟨t', -, h⟩ := h
  -- with seconds, and without
  split at h <;>
    simp only [Option.bind_eq_some_iff, Option.pure_def, Option.some.injEq, Prod.mk.injEq] at h
  · obtain ⟨_, -, _, -, _, -, clock, hclock, rfl, -⟩ := h
    exact (Clock.ofParts?_eq_some hclock).2.2.2
  · obtain ⟨_, -, _, -, clock, hclock, rfl, -⟩ := h
    exact (Clock.ofParts?_eq_some hclock).2.2.2

/-- The texts of a listing name points in time in whole seconds. -/
theorem micro_of_readStamp? {t : Text} {stamp : Stamp} (h : readStamp? t = some stamp) :
    stamp.clock.micro = 0 := by
  simp only [readStamp?, Option.bind_eq_bind, Option.bind_eq_some_iff] at h
  obtain ⟨⟨date, rest⟩, -, h⟩ := h
  cases rest with
  | nil => cases h
  | cons c rest =>
      simp only [Option.bind_eq_some_iff, Option.pure_def, Option.some.injEq] at h
      obtain ⟨-, -, ⟨clock, rest⟩, hclock, offset, -, rfl⟩ := h
      exact micro_of_clockThen? hclock

end Time

namespace Listing

open Text

/-- What an event holds of one of its boundaries: the point in time and the day. -/
abbrev Pair := Option Stamp × Option Date

def Boundary.pair (b : Boundary) : Pair := (b.at?, some b.on)

def startPair (e : Event) : Pair := (e.startAt, e.startOn)

def endPair (e : Event) : Pair := (e.endAt, e.endOn)

/-- An event with other boundaries, and all else as it was. -/
def withPairs (e : Event) (start finish : Pair) : Event :=
  { e with startAt := start.1, startOn := start.2, endAt := finish.1, endOn := finish.2 }

/-- A point in time is one of whole seconds, and the day beside it is its own. -/
def PairAgrees (p : Pair) : Prop :=
  ∀ stamp, p.1 = some stamp → stamp.clock.micro = 0 ∧ p.2 = some stamp.date

/-- Both boundaries of an event agree. -/
def DatesAgree (e : Event) : Prop := PairAgrees (startPair e) ∧ PairAgrees (endPair e)

theorem pairAgrees_of_boundary? {t : Text} {b : Boundary} (h : boundary? t = some b) :
    PairAgrees b.pair := by
  intro stamp hstamp
  unfold boundary? at h
  cases hread : Time.readStamp? t with
  | some stamp' =>
      rw [hread] at h
      cases h
      cases hstamp
      exact ⟨Time.micro_of_readStamp? hread, rfl⟩
  | none =>
      rw [hread] at h
      obtain ⟨date, -, rfl⟩ := Option.map_eq_some_iff.1 h
      cases hstamp

/-- A line of dates shows a digit behind the indentation, and a hyphen after the year. -/
theorem atIndent_of_isDateLine {line : Text} (h : isDateLine line = true) : AtIndent line := by
  unfold isDateLine at h
  cases hafter : after? (List.replicate propertyIndent ' ') line with
  | none =>
      rw [hafter] at h
      cases h
  | some rest =>
      rw [hafter] at h
      simp only [startsWithDate, Bool.and_eq_true, beq_iff_eq] at h
      obtain ⟨⟨⟨⟨⟨⟨⟨-, hdigits⟩, hhyphen⟩, -⟩, -⟩, -⟩, -⟩, -⟩ := h
      cases rest with
      | nil => cases hhyphen
      | cons c rest =>
          have hc : isDecimal c = true := List.all_eq_true.1 hdigits c (by simp)
          refine ⟨c, rest, after?_eq_some_iff.1 hafter, ?_, '-',
            List.mem_of_getElem? (i := 3) hhyphen, by decide⟩
          rintro rfl
          exact absurd hc (by decide)

namespace Draft

theorem event_setDates (d : Draft) (start finish : Option Boundary) :
    (d.setDates start finish).event = withPairs d.event
      ((start.map Boundary.pair).getD (startPair d.event))
      ((finish.map Boundary.pair).getD (endPair d.event)) := by
  cases start <;> cases finish <;> rfl

/-- Whatever was read before, a line of dates sets what it names. -/
theorem value_readLine_dates (d : Draft) {line : Text} (hline : isDateLine line = true) :
    (d.readLine line).value = d.setDates (namedStart? line) (namedEnd? line) := by
  rw [(atIndent_of_isDateLine hline).value_readLine, readHeader, if_pos hline, Logged.value_bind,
    value_readRange]
  rfl

theorem datesAgree_setDates {d : Draft} (hd : DatesAgree d.event) {start finish : Option Boundary}
    (hstart : ∀ b, start = some b → PairAgrees b.pair)
    (hfinish : ∀ b, finish = some b → PairAgrees b.pair) :
    DatesAgree (d.setDates start finish).event := by
  rw [event_setDates]
  constructor
  · cases start with
    | none => exact hd.1
    | some b => exact hstart b rfl
  · cases finish with
    | none => exact hd.2
    | some b => exact hfinish b rfl

theorem datesAgree_readLine {d : Draft} (hd : DatesAgree d.event) (line : Text) :
    DatesAgree (d.readLine line).value.event := by
  rcases d.readLine_cases line with hsame | ⟨start, finish, -, hrange, hset⟩
  · -- the dates are part of the outline
    show DatesAgree (d.readLine line).value.event.outline
    rw [hsame]
    exact hd
  · rw [value_readRange, Prod.mk.injEq] at hrange
    obtain ⟨rfl, rfl⟩ := hrange
    rw [hset]
    apply datesAgree_setDates hd
    · intro b hb
      obtain ⟨texts, -, hread⟩ := Option.bind_eq_some_iff.1 hb
      exact pairAgrees_of_boundary? hread
    · intro b hb
      obtain ⟨texts, -, hread⟩ := Option.bind_eq_some_iff.1 hb
      exact pairAgrees_of_boundary? hread

theorem datesAgree_readLines {d : Draft} (hd : DatesAgree d.event) (lines : List Text) :
    DatesAgree (d.readLines lines).value.event := by
  induction lines generalizing d with
  | nil => exact hd
  | cons line lines ih => exact ih (datesAgree_readLine hd line)

end Draft

theorem Section.datesAgree {titles : List Text} {s : Section} {e : Event}
    (h : (s.event titles).value = some e) : DatesAgree e := by
  obtain ⟨title, calendar, -, rfl⟩ := Section.value_event_eq_some h
  apply Draft.datesAgree_readLines
  exact ⟨nofun, nofun⟩

/-- In every event that is given out while a listing is read, whatever its lines are and whichever events
are kept, the dates agree. For a line of dates may set a boundary to what it names, day and time together,
or leave it as it was; it changes nothing else, and if it shows a start and no end, both boundaries are
that start. -/
theorem eventsWithReach_datesAgree {ε : Type} (titles : List Text) :
    (∀ (accept : Event → Bool) (lines : List Text), ∃ found,
      (eventsWithReach titles (decidedBy accept : Filter ε) lines).value = .ok found ∧
        ∀ read ∈ found, DatesAgree read.2) ∧
    ∀ (d : Draft) (line : Text), isDateLine line = true →
      (d.readLine line).value.event = withPairs d.event
        (((namedStart? line).map Boundary.pair).getD (startPair d.event))
        (((namedEnd? line).map Boundary.pair).getD (endPair d.event)) ∧
      ∀ start, rangeTexts? (trim line) = some (start, none) → ∀ b, boundary? start = some b →
        startPair (d.readLine line).value.event = b.pair ∧
          endPair (d.readLine line).value.event = b.pair := by
  constructor
  · intro accept lines
    refine ⟨_, value_eventsWithReach titles accept lines, fun read hread => ?_⟩
    obtain ⟨s, -, hs⟩ := List.mem_filterMap.1 hread
    obtain ⟨e, he, rfl⟩ := Option.map_eq_some_iff.1 hs
    exact s.datesAgree (Option.filter_eq_some_iff.1 he).1
  · intro d line hline
    rw [d.value_readLine_dates hline, d.event_setDates]
    refine ⟨rfl, fun start htexts b hb => ?_⟩
    have hstart : namedStart? line = some b := by rw [namedStart?, htexts, Option.bind_some, hb]
    have hend : namedEnd? line = some b := by
      rw [namedEnd?, htexts, Option.bind_some, Option.getD_none, hb]
    rw [hstart, hend]
    exact ⟨rfl, rfl⟩

/-- A trip of whole days that a second line of dates turns into a call. -/
theorem eventsWithReach_datesAgree_trip :
    (∃ found, (eventsWithReach ["Work".toList] (decidedBy (fun e => e.endAt.isSome) : Filter Empty)
      ["• Trip (Work)".toList, "    2024-05-01 - 2024-05-03".toList,
        "    2024-05-02 at T09:30+0200".toList]).value = .ok found ∧
      ∀ read ∈ found, DatesAgree read.2) ∧
    isDateLine "    2024-05-02 at T09:30+0200".toList = true ∧
    rangeTexts? (trim "    2024-05-02 at T09:30+0200".toList) =
      some ("2024-05-02T09:30+0200".toList, none) ∧
    ∃ b, boundary? "2024-05-02T09:30+0200".toList = some b ∧ b.at?.isSome = true ∧
      ∀ e, e = (Draft.readLine ⟨{
          title := "Trip".toList, calendar := "Work".toList
          startOn := some { year := 2024, month := 5, day := 1 }
          endOn := some { year := 2024, month := 5, day := 3 } }, none, 0⟩
        "    2024-05-02 at T09:30+0200".toList).value.event →
      startPair e = b.pair ∧ endPair e = b.pair := by
  have hline : isDateLine "    2024-05-02 at T09:30+0200".toList = true := by decide
  have htexts : rangeTexts? (trim "    2024-05-02 at T09:30+0200".toList) =
      some ("2024-05-02T09:30+0200".toList, none) := by decide +kernel
  have hstart : boundary? "2024-05-02T09:30+0200".toList = some
      ⟨some ⟨{ year := 2024, month := 5, day := 2 }, { hour := 9, minute := 30, second := 0, micro := 0 },
        ⟨7200000000, by decide⟩⟩, { year := 2024, month := 5, day := 2 }⟩ := by decide +kernel
  refine ⟨(eventsWithReach_datesAgree _).1 _ _, hline, htexts, _, hstart, rfl, ?_⟩
  rintro e rfl
  exact ((eventsWithReach_datesAgree (ε := Empty) ["Work".toList]).2 _ _ hline).2 _ htexts _ hstart

end Listing

end AgendaLinks
