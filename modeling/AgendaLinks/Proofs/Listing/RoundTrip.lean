import AgendaLinks.Proofs.Listing.Headings
import AgendaLinks.Proofs.Listing.Sections
import AgendaLinks.Proofs.Listing.Values

/-!
Events are read again off the lines they are printed on. Each property is set by its own lines and by no
others, so the order of the properties does not matter, and the heading gives back title and calendar.
-/

namespace AgendaLinks.Listing

open Text

theorem foldl_extend_text {p : Property} (hp : p.keepsBlankLines = true) (e : Event) (value : Text)
    (rest : List Text) :
    rest.foldl (fun e line => extendProperty e line p) (setProperty e value p) =
      setProperty e (value ++ rest.flatMap ('\n' :: ·)) p := by
  induction rest generalizing value with
  | nil => rw [List.flatMap_nil, List.append_nil, List.foldl_nil]
  | cons line rest ih =>
      rw [List.foldl_cons, extendProperty_setProperty hp, ih, List.flatMap_cons,
        ← List.append_assoc]

theorem value_readLines_text (d : Draft) {p : Property} (hp : p.keepsBlankLines = true)
    {value : Text} (h : PrintableText value) :
    (d.readLines (propertyLines p (pieces '\n' value))).value =
      ⟨setProperty d.event value p, some p, 0⟩ := by
  have hlines := oneLine_pieces h.no_return
  have hfurther := h.further
  have hlast := h.last
  obtain ⟨first, rest, hpieces, hvalue⟩ := exists_pieces '\n' value
  rw [hpieces] at hlines hfurther hlast ⊢
  have hfollow : ∀ line ∈ rest, Draft.CanFollow p line := by
    intro line hline
    by_cases hempty : line = []
    · exact Or.inr ⟨hempty, hp⟩
    · exact Or.inl (hfurther line hline hempty)
  rw [Draft.value_readLines_propertyLines d (hlines first List.mem_cons_self).no_newline hfollow hlast,
    foldl_extend_text hp, ← hvalue]

theorem foldl_extend_attendees (e : Event) (names : List Text) (rest : List Text) :
    rest.foldl (fun e line => extendProperty e line .attendees) { e with attendees := some names } =
      { e with attendees := some (names ++ rest.flatMap splitAttendees) } := by
  induction rest generalizing names with
  | nil => rw [List.flatMap_nil, List.append_nil, List.foldl_nil]
  | cons line rest ih =>
      rw [List.foldl_cons, List.flatMap_cons, ← List.append_assoc]
      exact ih (names ++ splitAttendees line)

theorem splitAttendees_cons_space (line : Text) :
    splitAttendees (' ' :: line) = splitAttendees line := by
  obtain ⟨first, rest, hpieces, -⟩ := exists_pieces ',' line
  rw [splitAttendees, splitAttendees, pieces, if_neg (by decide), hpieces]
  simp only [List.map_cons, trim_cons_of_isBlank (show isBlank ' ' = true by decide)]

theorem splitAttendees_spaces (n : Nat) (line : Text) :
    splitAttendees (spaces n ++ line) = splitAttendees line := by
  induction n with
  | zero => rfl
  | succ n ih =>
      rw [spaces, List.replicate_succ, List.cons_append, splitAttendees_cons_space]
      exact ih

theorem splitAttendees_name {name : Text} (h : PrintableName name) : splitAttendees name = [name] := by
  rw [splitAttendees, pieces_of_not_mem h.no_comma, List.map_singleton, h.trimmed,
    List.filter_cons_of_pos (by simpa using h.ne_nil), List.filter_nil]

theorem splitAttendees_name_append {name : Text} (h : PrintableName name) (rest : Text) :
    splitAttendees (name ++ ',' :: rest) = name :: splitAttendees rest := by
  rw [splitAttendees, pieces_append h.no_comma, List.map_cons, h.trimmed,
    List.filter_cons_of_pos (by simpa using h.ne_nil)]
  rfl

/-- The names are read again off their lines, however they are wrapped. -/
theorem splitAttendees_wrapNames (joints : List Joint) {names : List Text}
    (h : ∀ name ∈ names, PrintableName name) :
    splitAttendees (wrapNames joints names).1 ++ (wrapNames joints names).2.flatMap splitAttendees =
      names := by
  induction names generalizing joints with
  | nil => rfl
  | cons name names ih =>
      have hname := h name List.mem_cons_self
      cases names with
      | nil =>
          rw [wrapNames, splitAttendees_name hname]
          rfl
      | cons next names =>
          have hrest := ih joints.tail fun n hn => h n (List.mem_cons_of_mem _ hn)
          rw [wrapNames_cons_cons]
          cases joints.headD .space with
          | space =>
              simp only
              rw [splitAttendees_name_append hname, splitAttendees_cons_space, List.cons_append, hrest]
          | wrap before after =>
              simp only
              rw [splitAttendees_name_append hname, List.flatMap_cons, splitAttendees_spaces, hrest,
                ← List.append_nil (spaces before), splitAttendees_spaces]
              rfl

theorem value_readLines_attendees (d : Draft) (joints : List Joint) {names : List Text}
    (h : ∀ name ∈ names, PrintableName name) :
    (d.readLines (propertyLines .attendees
        ((wrapNames joints names).1 :: (wrapNames joints names).2))).value =
      ⟨{ d.event with attendees := some names }, some .attendees, 0⟩ := by
  have hshown := shown_wrapNames joints h
  have hone := oneLine_wrapNames joints fun name hname => (h name hname).one_line
  have hlast : (wrapNames joints names).2.getLast? ≠ some [] := by
    intro hlast
    obtain ⟨n, c, rest, hempty, -⟩ := hshown [] (List.mem_of_getLast? hlast)
    simp at hempty
  rw [Draft.value_readLines_propertyLines d hone.1.no_newline
    (fun line hline => Or.inl (hshown line hline)) hlast]
  rw [setProperty, foldl_extend_attendees, splitAttendees_wrapNames joints h]

/-- The lines of a property set it and nothing else, whatever was read before. -/
theorem value_readLines_property {titles : List Text} {source : Event}
    (hsource : Printable titles source) (joints : List Joint) (d : Draft) {p : Property}
    (hp : has source p) :
    (d.readLines (propertyLines p (valueLines joints source p))).value =
      ⟨copyProperty source d.event p, some p, 0⟩ := by
  cases p with
  | location =>
      obtain ⟨value, hvalue⟩ := Option.isSome_iff_exists.1 hp
      rw [valueLines, copyProperty, hvalue, Option.getD_some]
      exact value_readLines_text d rfl (hsource.location value hvalue)
  | notes =>
      obtain ⟨value, hvalue⟩ := Option.isSome_iff_exists.1 hp
      rw [valueLines, copyProperty, hvalue, Option.getD_some]
      exact value_readLines_text d rfl (hsource.notes value hvalue)
  | url =>
      obtain ⟨value, hvalue⟩ := Option.isSome_iff_exists.1 hp
      rw [valueLines, copyProperty, hvalue, Option.getD_some]
      exact Draft.value_readLines_propertyLines d (hsource.url value hvalue).no_newline
        (fun line hline => by cases hline) (by simp)
  | attendees =>
      obtain ⟨names, hnames⟩ := Option.isSome_iff_exists.1 hp
      rw [valueLines, copyProperty, hnames, Option.getD_some]
      exact value_readLines_attendees d joints (hsource.attendees names hnames)

/-- An event with those of its properties that pass a test, and without dates. -/
def restricted (e : Event) (shown : Property → Bool) : Event :=
  { title := e.title
    calendar := e.calendar
    location := if shown .location then e.location else none
    notes := if shown .notes then e.notes else none
    url := if shown .url then e.url else none
    attendees := if shown .attendees then e.attendees else none }

theorem copyProperty_restricted (e : Event) (shown : Property → Bool) (p : Property) :
    copyProperty e (restricted e shown) p = restricted e fun q => decide (q = p) || shown q := by
  cases p <;> simp [copyProperty, restricted]

theorem restricted_eq_undated {e : Event} {shown : Property → Bool}
    (h : ∀ p, has e p → shown p = true) : restricted e shown = undated e := by
  have hfield {α : Type} (p : Property) (field : Option α) (hp : field.isSome → has e p) :
      (if shown p then field else none) = field := by
    cases field with
    | none => exact ite_self _
    | some a => exact if_pos (h p (hp rfl))
  rw [restricted, undated, hfield .location _ id, hfield .notes _ id, hfield .url _ id,
    hfield .attendees _ id]

/-- The properties that are read one after the other are all set, in whatever order they come. -/
theorem value_readLines_order {titles : List Text} {e : Event} (he : Printable titles e)
    (joints : List Joint) {order : List Property} (horder : ∀ p ∈ order, has e p)
    (d : Draft) (shown : Property → Bool) (hd : d.event = restricted e shown) :
    (d.readLines (order.flatMap fun p => propertyLines p (valueLines joints e p))).value.event =
      restricted e fun p => decide (p ∈ order) || shown p := by
  induction order generalizing d shown with
  | nil =>
      rw [List.flatMap_nil, Draft.readLines, Logged.value_pure, hd]
      simp
  | cons p order ih =>
      rw [List.flatMap_cons, Draft.readLines_append, Logged.value_bind,
        value_readLines_property he joints d (horder p List.mem_cons_self),
        ih (fun q hq => horder q (List.mem_cons_of_mem _ hq)) _
          (fun q => decide (q = p) || shown q) (by rw [hd, copyProperty_restricted])]
      congr
      funext q
      by_cases hq : q = p <;> simp [hq]

theorem startEvent_headingOf {titles : List Text} {e : Event} (he : Printable titles e) :
    startEvent titles (headingOf e) = some { title := e.title, calendar := e.calendar } := by
  have hheading : headingOf e = e.title ++ (" (".toList ++ (e.calendar ++ [')'])) := by
    rw [headingOf, List.append_assoc, List.append_assoc]
  have hsplit : splitHeading (isCalendar titles) (headingOf e) = some (e.title, e.calendar) := by
    rw [hheading, isCalendar_eq_contains (List.ne_nil_of_mem he.known)]
    exact splitHeading_append he.title.no_newline (List.contains_iff_mem.2 he.known)
      fun s hs => he.unambiguous s (List.contains_iff_mem.1 hs)
  rw [startEvent, hsplit]
  rfl

theorem EndsAs.chomp_eq {line raw : Text} (h : EndsAs line raw) (hline : OneLine line) :
    chomp raw = line := by
  rcases h with rfl | rfl | rfl
  · have hchomp := chomp_append hline (List.forall_mem_nil _)
    rwa [List.append_nil] at hchomp
  · exact chomp_append hline (by decide)
  · exact chomp_append hline (by decide)

theorem map_chomp_of_endsAs {lines raws : List Text} (h : List.Forall₂ EndsAs lines raws)
    (hlines : ∀ line ∈ lines, OneLine line) : raws.map chomp = lines := by
  induction h with
  | nil => rfl
  | cons hends _ ih =>
      rw [List.map_cons, hends.chomp_eq (hlines _ List.mem_cons_self),
        ih fun line hline => hlines line (List.mem_cons_of_mem _ hline)]

/-- Layouts that show the properties of an event and no others. -/
def Layout.Shows (l : Layout) (e : Event) : Prop := ∀ p, p ∈ l.order ↔ has e p

theorem isEntry_printed (l : Layout) (e : Event) : IsEntry (printed l e) := by
  refine ⟨_, _, rfl, rfl, fun line hline => ?_⟩
  obtain ⟨p, -, hline⟩ := List.mem_flatMap.1 hline
  exact not_isBullet_propertyLines p _ line hline

theorem entryEvent?_printed {titles : List Text} {e : Event} (he : Printable titles e) {l : Layout}
    (hl : l.Shows e) : entryEvent? titles (printed l e) = some (undated e) := by
  have hone := oneLine_printed he fun p hp => (hl p).1 hp
  rw [printed, List.forall_mem_cons] at hone
  obtain ⟨hfirst, hrest⟩ := hone
  have hheading : afterBullet? (chomp (bullet ++ headingOf e)) = some (headingOf e) := by
    rw [(EndsAs.chomp_eq (Or.inl rfl) hfirst), afterBullet?_bullet_append]
  have hbody := map_chomp_of_endsAs (List.forall₂_same.2 fun line _ => Or.inl rfl) hrest
  have hbullets : ∀ line ∈ l.order.flatMap fun p => propertyLines p (valueLines l.joints e p),
      isBullet line = false := by
    intro line hline
    obtain ⟨p, -, hline⟩ := List.mem_flatMap.1 hline
    exact not_isBullet_propertyLines p _ line hline
  have hread := value_readLines_order he l.joints (fun p hp => (hl p).1 hp)
    { event := { title := e.title, calendar := e.calendar } } (fun _ => false) rfl
  rw [entryEvent?, printed, unplacedSections_entry hheading hbullets, hbody, eventsIn_cons,
    Section.event, startEvent_headingOf he]
  simp only [Logged.value_bind, Logged.value_pure, hread]
  rw [restricted_eq_undated fun p hp => by simp [(hl p).2 hp]]
  rfl

/-- Printed events are read again, whatever order their properties stand in, wherever their attendees
are wrapped, and however the lines end. -/
theorem readEvents_printed {ε : Type} (known : List Calendar) (prints : List (Event × Layout))
    (raws : List Text)
    (hprints : ∀ q ∈ prints, Printable (known.map (·.title)) q.1 ∧ q.2.Shows q.1)
    (hraws : List.Forall₂ EndsAs (prints.flatMap fun q => printed q.2 q.1) raws) :
    (readEvents known (acceptAll : Filter ε) raws).value = .ok (prints.map fun q => undated q.1) := by
  have hone : ∀ line ∈ prints.flatMap fun q => printed q.2 q.1, OneLine line := by
    intro line hline
    obtain ⟨q, hq, hline⟩ := List.mem_flatMap.1 hline
    obtain ⟨he, hl⟩ := hprints q hq
    exact oneLine_printed he (fun p hp => (hl p).1 hp) line hline
  have hentries : ∀ entry ∈ prints.map fun q => printed q.2 q.1, IsEntry entry := by
    intro entry hentry
    obtain ⟨q, -, rfl⟩ := List.mem_map.1 hentry
    exact isEntry_printed q.2 q.1
  have hevents : (prints.map fun q => printed q.2 q.1).map (entryEvent? (known.map (·.title))) =
      (prints.map fun q => undated q.1).map some := by
    rw [List.map_map, List.map_map]
    refine List.map_congr_left fun q hq => ?_
    obtain ⟨he, hl⟩ := hprints q hq
    exact entryEvent?_printed he hl
  rw [value_readEvents_acceptAll, ← unplacedSections_map_chomp, map_chomp_of_endsAs hraws hone,
    List.flatMap_def, eventsIn_flatten _ hentries, hevents]
  rw [List.filterMap_map, Function.id_comp, List.filterMap_some]

/-- A title with parentheses, wrapped attendees, and notes with an empty line and an indented one. -/
theorem readEvents_printed_review :
    (∀ q ∈ [(({ title := "Review (Work)".toList, calendar := "Home".toList,
                notes := some "one\n\n  two".toList,
                attendees := some ["Ada".toList, "Bob Lee".toList] } : Event),
        ({ order := [.attendees, .notes], joints := [.wrap 0 0] } : Layout))],
      Printable ["Work".toList, "Home".toList] q.1 ∧ q.2.Shows q.1) ∧
    (readEvents [⟨"Work".toList, none, none⟩, ⟨"Home".toList, none, none⟩]
      (acceptAll : Filter Empty)
      ["• Review (Work) (Home)\r\n".toList, "    attendees: Ada,\n".toList,
        "               Bob Lee\r\n".toList, "    notes: one\n".toList, "\n".toList,
        "             two".toList]).value =
      .ok [{ title := "Review (Work)".toList, calendar := "Home".toList,
             notes := some "one\n\n  two".toList,
             attendees := some ["Ada".toList, "Bob Lee".toList] }] := by
  have hnotes : PrintableText "one\n\n  two".toList := by
    refine ⟨by decide, ?_, by decide⟩
    intro line hline hne
    rcases List.mem_pair.1 hline with rfl | rfl
    · exact absurd rfl hne
    · exact ⟨2, 't', "wo".toList, rfl, by decide⟩
  have hnames : ∀ name ∈ ["Ada".toList, "Bob Lee".toList], PrintableName name := by
    intro name hname
    rcases List.mem_pair.1 hname with rfl | rfl
    · exact ⟨by decide, by decide, by decide, by decide⟩
    · exact ⟨by decide, by decide, by decide, by decide⟩
  have hprints : ∀ q ∈ [(({ title := "Review (Work)".toList, calendar := "Home".toList,
                            notes := some "one\n\n  two".toList,
                            attendees := some ["Ada".toList, "Bob Lee".toList] } : Event),
        ({ order := [.attendees, .notes], joints := [.wrap 0 0] } : Layout))],
      Printable ["Work".toList, "Home".toList] q.1 ∧ q.2.Shows q.1 := by
    rw [List.forall_mem_singleton]
    refine ⟨⟨by decide, by decide, by decide, by decide, ?_, ?_, ?_, ?_⟩, ?_⟩
    · rintro value ⟨⟩
    · rintro value ⟨⟩
      exact hnotes
    · rintro value ⟨⟩
    · rintro names ⟨⟩
      exact hnames
    · intro p
      cases p <;> simp [has]
  refine ⟨hprints, readEvents_printed (ε := Empty)
    [⟨"Work".toList, none, none⟩, ⟨"Home".toList, none, none⟩] _ _ hprints ?_⟩
  exact .cons (.inr (.inr rfl)) (.cons (.inr (.inl rfl)) (.cons (.inr (.inr rfl))
    (.cons (.inr (.inl rfl)) (.cons (.inr (.inl rfl)) (.cons (.inl rfl) .nil)))))

end AgendaLinks.Listing
