import AgendaLinks.Proofs.Listing.Sections

/-!
Reading a listing as its lines come. All that is kept between two lines is their number and the entry
being read; a line with a bullet completes the event of the entry before it, and so does the end of the
listing. This gives out the same events, after the same numbers of lines and with the same messages, as
reading section by section does. So an event is given out at the bullet behind its entry and no later, and
what was given out before the end of a listing stays when more lines follow.
-/

namespace AgendaLinks.Listing

/-- The draft of an entry of which the heading alone was read. -/
def beginEntry (titles : List Text) (heading : Text) : Logged (Option Draft) := do
  return (← Section.event titles ⟨heading, [], 0⟩).map fun e => { event := e }

/-- The event that further lines make of an entry. -/
def finishEntry (draft : Option Draft) (lines : List Text) : Logged (Option Event) :=
  match draft with
  | none => return none
  | some d => return some (← d.readLines lines).event

/-- The event of a complete entry, with the number of lines read, if it passes the test. -/
def given (accept : Event → Bool) (read : Nat) (complete : Option Event) : List (Nat × Event) :=
  ((complete.filter accept).map fun e => (read, e)).toList

/-- What is kept between two lines of a listing: how many were read, and the entry being read, if one has
begun and its heading names a known calendar. -/
structure Progress where
  read : Nat := 0
  draft : Option Draft := none

namespace Progress

/-- What a line does: the event that it completes, and what is kept after it. -/
def readLine (titles : List Text) (p : Progress) (raw : Text) : Logged (Option Event × Progress) :=
  match afterBullet? (chomp raw) with
  | some heading => do
    return (p.draft.map Draft.event, ⟨p.read + 1, ← beginEntry titles heading⟩)
  | none =>
    match p.draft with
    | none => return (none, ⟨p.read + 1, none⟩)
    | some d => do return (none, ⟨p.read + 1, some (← d.readLine (chomp raw))⟩)

/-- The events that are given out while lines are read, and what is kept after them. -/
def readLines (titles : List Text) (accept : Event → Bool) (p : Progress) :
    List Text → Logged (List (Nat × Event) × Progress)
  | [] => return ([], p)
  | raw :: rest => do
    let (complete, next) ← p.readLine titles raw
    let (later, last) ← next.readLines titles accept rest
    return (given accept next.read complete ++ later, last)

/-- The event that is given out at the end of a listing, if there is one. -/
def finish (accept : Event → Bool) (p : Progress) : List (Nat × Event) :=
  given accept p.read (p.draft.map Draft.event)

end Progress

section

variable (titles : List Text) (accept : Event → Bool)

theorem Section.event_eq (s : Section) :
    s.event titles = beginEntry titles s.heading >>= fun draft => finishEntry draft s.body := by
  unfold beginEntry Section.event
  cases startEvent titles s.heading with
  | none => simp only [bind_assoc, pure_bind, Option.map_none, finishEntry]
  | some e => simp only [Draft.readLines, pure_bind, Option.map_some, finishEntry]

theorem given_some (read : Nat) (e : Event) :
    given accept read (some e) = if accept e then [(read, e)] else [] := by
  rw [given, Option.filter_some]
  split_ifs <;> rfl

/-- Lines may be read in two parts. -/
theorem Progress.readLines_append (p : Progress) (first second : List Text) :
    p.readLines titles accept (first ++ second) = do
      let (before, next) ← p.readLines titles accept first
      let (later, last) ← next.readLines titles accept second
      return (before ++ later, last) := by
  induction first generalizing p with
  | nil =>
      simp only [List.nil_append, readLines, pure_bind]
      exact (bind_pure _).symm
  | cons raw first ih =>
      simp only [List.cons_append, readLines, ih, bind_assoc, pure_bind, List.append_assoc]

theorem finishEntry_nil (draft : Option Draft) :
    finishEntry draft [] = pure (draft.map Draft.event) := by
  cases draft <;> rfl

theorem finishEntry_cons (d : Draft) (line : Text) (lines : List Text) :
    finishEntry (some d) (line :: lines) =
      d.readLine line >>= fun d' => finishEntry (some d') lines := by
  simp only [finishEntry, Draft.readLines, bind_assoc]

theorem map_given_none {ε : Type} (read : Nat) (later : Except ε (List (Nat × Event))) :
    later.map (given accept read none ++ ·) = later := by
  cases later <;> rfl

/-- The event of a section is given out before those of the sections behind it. -/
theorem eventsOfSections_cons {ε : Type} (s : Section) (rest : List Section) :
    (eventsOfSections titles (decidedBy accept : Filter ε) (s :: rest)) = do
      let own ← s.event titles
      let later ← eventsOfSections titles (decidedBy accept : Filter ε) rest
      return later.map (given accept s.reach own ++ ·) := by
  rw [eventsOfSections]
  congr 1
  funext own
  cases own with
  | none => simp only [map_given_none, bind_pure]
  | some e =>
      simp only [decidedBy, given_some]
      congr 1
      funext later
      cases accept e <;> rfl

/-- The events of the lines up to the next bullet and of the sections behind them, when so many lines
were read and an entry had begun. -/
def eventsAfter {ε : Type} (read : Nat) (draft : Option Draft) (found : List Text × List Section) :
    Logged (Except ε (List (Nat × Event))) := do
  let own ← finishEntry draft found.1
  let later ← eventsOfSections titles (decidedBy accept) found.2
  let reach := read + found.1.length + if found.2.isEmpty then 0 else 1
  return later.map (given accept reach own ++ ·)

/-- A line without a bullet goes on with the entry that has begun. -/
theorem eventsAfter_cons {ε : Type} (read : Nat) (draft : Option Draft) (line : Text)
    (found : List Text × List Section) :
    (eventsAfter titles accept read draft (line :: found.1, found.2) :
        Logged (Except ε (List (Nat × Event)))) =
      match draft with
      | none => eventsAfter titles accept (read + 1) none found
      | some d => d.readLine line >>= fun d' => eventsAfter titles accept (read + 1) (some d') found := by
  have hreach : read + (line :: found.1).length = read + 1 + found.1.length := by
    rw [List.length_cons]
    omega
  cases draft with
  | none => simp only [eventsAfter, finishEntry, pure_bind, hreach]
  | some d => simp only [eventsAfter, finishEntry_cons, bind_assoc, hreach]

/-- Reading line by line gives out what reading section by section does, with the same messages. -/
theorem Progress.readLines_finish {ε : Type} (p : Progress) (lines : List Text) :
    (do
      let (found, last) ← p.readLines titles accept lines
      return Except.ok (found ++ last.finish accept) : Logged (Except ε (List (Nat × Event)))) =
      eventsAfter titles accept p.read p.draft (splitFrom p.read lines) := by
  induction lines generalizing p with
  | nil =>
      show pure (Except.ok (given accept p.read (p.draft.map Draft.event))) = _
      rw [splitFrom, eventsAfter, finishEntry_nil, pure_bind, eventsOfSections, pure_bind]
      show _ = pure (Except.ok (given accept p.read (p.draft.map Draft.event) ++ []))
      rw [List.append_nil]
  | cons raw rest ih =>
      have hlater (complete : Option Event) (next : Progress) :
          (do
            let (later, last) ← next.readLines titles accept rest
            return Except.ok (given accept next.read complete ++ later ++ last.finish accept) :
              Logged (Except ε (List (Nat × Event)))) = do
            let later ← eventsAfter titles accept next.read next.draft (splitFrom next.read rest)
            return later.map (given accept next.read complete ++ ·) := by
        rw [← ih next]
        simp only [bind_assoc, pure_bind, List.append_assoc]
        rfl
      cases hraw : afterBullet? (chomp raw) with
      | some heading =>
          -- the entry before the bullet is complete, and another one begins
          simp only [readLines, readLine, hraw, bind_assoc, pure_bind, hlater]
          simp only [splitFrom, hraw, eventsAfter, finishEntry_nil, pure_bind, eventsOfSections_cons,
            Section.event_eq, bind_assoc]
          rfl
      | none =>
          rw [splitFrom_of_not_bullet p.read rest hraw, eventsAfter_cons]
          simp only [readLines, readLine, hraw]
          cases p.draft <;> simp only [bind_assoc, pure_bind, hlater, map_given_none, bind_pure]

/-- A listing may be read as its lines come. -/
theorem eventsWithReach_eq {ε : Type} (lines : List Text) :
    (eventsWithReach titles (decidedBy accept : Filter ε) lines) = do
      let (found, last) ← Progress.readLines titles accept {} lines
      return .ok (found ++ last.finish accept) := by
  rw [Progress.readLines_finish, eventsAfter]
  show _ = (eventsOfSections titles (decidedBy accept) (sections lines) >>= fun later =>
    pure (later.map (given accept _ none ++ ·)))
  simp only [map_given_none, bind_pure]
  rfl

/-- Entries with the numbers of lines read when they are over, if so many were read before: the lines up to
the first one of the next entry, or all lines. -/
def placed (read : Nat) : List (List Text) → List (Nat × List Text)
  | [] => []
  | [entry] => [(read + entry.length, entry)]
  | entry :: next :: rest =>
    (read + entry.length + 1, entry) :: placed (read + entry.length) (next :: rest)

theorem placed_cons (read : Nat) (entry : List Text) (rest : List (List Text)) :
    placed read (entry :: rest) =
      (read + entry.length + (if rest.isEmpty then 0 else 1), entry) ::
        placed (read + entry.length) rest := by
  cases rest <;> rfl

/-- The events that pass, each where its entry is over. -/
def placedEvents (read : Nat) (entries : List (List Text)) : List (Nat × Event) :=
  (placed read entries).filterMap fun q =>
    ((entryEvent? titles q.2).filter accept).map fun e => (q.1, e)

theorem entryEvent?_eq {first : Text} {rest : List Text} {heading : Text}
    (hfirst : afterBullet? (chomp first) = some heading)
    (hrest : ∀ line ∈ rest, isBullet line = false) (reach : Nat) :
    entryEvent? titles (first :: rest) =
      (Section.event titles ⟨heading, rest.map chomp, reach⟩).value := by
  rw [entryEvent?, unplacedSections_entry hfirst hrest, eventsIn_cons]
  show ((Section.event titles ⟨heading, rest.map chomp, reach⟩).value.toList ++ []).head? = _
  cases (Section.event titles ⟨heading, rest.map chomp, reach⟩).value <;> rfl

theorem isEmpty_splitFrom_flatten (read : Nat) {entries : List (List Text)}
    (h : ∀ entry ∈ entries, IsEntry entry) :
    (splitFrom read entries.flatten).2.isEmpty = entries.isEmpty := by
  cases entries with
  | nil => rfl
  | cons entry entries =>
      obtain ⟨first, rest, rfl, hfirst, -⟩ := h entry List.mem_cons_self
      rw [← isBullet_chomp] at hfirst
      obtain ⟨heading, hheading⟩ := Option.isSome_iff_exists.1 hfirst
      obtain ⟨reach, hsplit⟩ := splitFrom_of_bullet read (rest ++ entries.flatten) hheading
      rw [List.flatten_cons, List.cons_append, hsplit]
      rfl

/-- A section reaches as far as its entry. -/
theorem filterMap_splitFrom (read : Nat) {entries : List (List Text)}
    (h : ∀ entry ∈ entries, IsEntry entry) :
    ((splitFrom read entries.flatten).2.filterMap fun s =>
      ((s.event titles).value.filter accept).map fun e => (s.reach, e)) =
      placedEvents titles accept read entries := by
  induction entries generalizing read with
  | nil => rfl
  | cons entry entries ih =>
      have hentries : ∀ entry ∈ entries, IsEntry entry := fun e he => h e (List.mem_cons_of_mem _ he)
      obtain ⟨first, rest, rfl, hfirst, hrest⟩ := h entry List.mem_cons_self
      rw [← isBullet_chomp] at hfirst
      obtain ⟨heading, hheading⟩ := Option.isSome_iff_exists.1 hfirst
      have hread : read + 1 + rest.length = read + (first :: rest).length := by
        rw [List.length_cons]
        omega
      rw [List.flatten_cons, List.cons_append, splitFrom,
        splitFrom_append_of_no_bullet (read + 1) _ hrest,
        splitFrom_fst_of_startsEntry _ (startsEntry_flatten hentries), List.append_nil, hread]
      simp only [hheading, List.length_map, hread, isEmpty_splitFrom_flatten _ hentries]
      rw [List.filterMap_cons, ih _ hentries]
      unfold placedEvents
      rw [placed_cons, List.filterMap_cons, entryEvent?_eq titles hheading hrest _]

/-- The events of a listing of entries, after lines that belong to none. -/
theorem value_eventsWithReach_entries {ε : Type} {preamble : List Text} {entries : List (List Text)}
    (hpreamble : ∀ line ∈ preamble, isBullet line = false)
    (hentries : ∀ entry ∈ entries, IsEntry entry) :
    (eventsWithReach titles (decidedBy accept : Filter ε) (preamble ++ entries.flatten)).value =
      .ok (placedEvents titles accept preamble.length entries) := by
  rw [value_eventsWithReach, sections, splitFrom_append_of_no_bullet 0 _ hpreamble, Nat.zero_add,
    filterMap_splitFrom titles accept _ hentries]

/-- An entry is over after lines of its own. -/
theorem lt_of_mem_placed {read : Nat} {entries : List (List Text)}
    (h : ∀ entry ∈ entries, IsEntry entry) {q : Nat × List Text} (hq : q ∈ placed read entries) :
    read < q.1 := by
  induction entries generalizing read with
  | nil => cases hq
  | cons entry entries ih =>
      obtain ⟨first, rest, rfl, -, -⟩ := h entry List.mem_cons_self
      rw [placed_cons] at hq
      rcases List.mem_cons.1 hq with rfl | hlater
      · dsimp only
        rw [List.length_cons]
        omega
      · have := ih (fun e he => h e (List.mem_cons_of_mem _ he)) hlater
        omega

theorem placed_pairwise (read : Nat) {entries : List (List Text)}
    (h : ∀ entry ∈ entries, IsEntry entry) :
    (placed read entries).Pairwise fun q r => q.1 ≤ r.1 := by
  induction entries generalizing read with
  | nil => exact .nil
  | cons entry entries ih =>
      have hentries : ∀ entry ∈ entries, IsEntry entry := fun e he => h e (List.mem_cons_of_mem _ he)
      rw [placed_cons, List.pairwise_cons]
      refine ⟨fun q hq => ?_, ih _ hentries⟩
      have hlater := lt_of_mem_placed hentries hq
      dsimp only
      split_ifs <;> omega

theorem placedEvents_pairwise (read : Nat) {entries : List (List Text)}
    (h : ∀ entry ∈ entries, IsEntry entry) :
    (placedEvents titles accept read entries).Pairwise fun a b => a.1 ≤ b.1 := by
  apply List.Pairwise.filterMap _ _ (placed_pairwise read h)
  intro q r hle a ha b hb
  obtain ⟨_, -, rfl⟩ := Option.map_eq_some_iff.1 ha
  obtain ⟨_, -, rfl⟩ := Option.map_eq_some_iff.1 hb
  exact hle

/-- The events that are given out at lines of a listing, before its end is met. -/
def givenWithin (lines : List Text) : List (Nat × Event) :=
  (Progress.readLines titles accept {} lines).value.1

/-- The event that is given out when the end of a listing is met, if there is one. -/
def givenAtEnd (lines : List Text) : List (Nat × Event) :=
  (Progress.readLines titles accept {} lines).value.2.finish accept

theorem value_eventsWithReach_eq {ε : Type} (lines : List Text) :
    (eventsWithReach titles (decidedBy accept : Filter ε) lines).value =
      .ok (givenWithin titles accept lines ++ givenAtEnd titles accept lines) := by
  rw [eventsWithReach_eq]
  rfl

theorem givenWithin_isPrefix (lines more : List Text) :
    givenWithin titles accept lines <+: givenWithin titles accept (lines ++ more) := by
  rw [givenWithin, givenWithin, Progress.readLines_append]
  exact List.prefix_append _ _

/-- A listing is read as its lines come. Each event that passes the test is given out when the first
bullet behind its entry has been read, or at the end if there is none behind it; so the numbers of lines
read never decrease. What was given out at the lines of a listing is given out first, after the same
numbers of lines, however the listing goes on. -/
theorem eventsWithReach_streamed {ε : Type} (lines : List Text) :
    ∃ found, (eventsWithReach titles (decidedBy accept : Filter ε) lines).value = .ok found ∧
      found = givenWithin titles accept lines ++ givenAtEnd titles accept lines ∧
      (∃ preamble entries, lines = preamble ++ List.flatten entries ∧
        (∀ line ∈ preamble, isBullet line = false) ∧ (∀ entry ∈ entries, IsEntry entry) ∧
        found = (placed preamble.length entries).filterMap fun q =>
          ((entryEvent? titles q.2).filter accept).map fun e => (q.1, e)) ∧
      found.Pairwise (fun earlier later => earlier.1 ≤ later.1) ∧
      ∀ more, ∃ rest,
        (eventsWithReach titles (decidedBy accept : Filter ε) (lines ++ more)).value =
          .ok (givenWithin titles accept lines ++ rest) := by
  have hvalue := value_eventsWithReach_eq titles accept (ε := ε) lines
  obtain ⟨preamble, entries, hlines, hpreamble, hentries⟩ := exists_entries lines
  have hplaced : givenWithin titles accept lines ++ givenAtEnd titles accept lines =
      placedEvents titles accept preamble.length entries := by
    have hentriesValue := value_eventsWithReach_entries titles accept (ε := ε) hpreamble hentries
    rw [← hlines, hvalue, Except.ok.injEq] at hentriesValue
    exact hentriesValue
  refine ⟨_, hvalue, rfl, ⟨preamble, entries, hlines, hpreamble, hentries, hplaced⟩, ?_, ?_⟩
  · rw [hplaced]
    exact placedEvents_pairwise titles accept _ hentries
  · intro more
    obtain ⟨rest, hrest⟩ := givenWithin_isPrefix titles accept lines more
    refine ⟨rest ++ givenAtEnd titles accept (lines ++ more), ?_⟩
    rw [value_eventsWithReach_eq, ← hrest, List.append_assoc]

end

end AgendaLinks.Listing
