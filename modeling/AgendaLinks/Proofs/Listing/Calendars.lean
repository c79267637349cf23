import AgendaLinks.Listing.Calendars
import AgendaLinks.Proofs.Listing.Sections
import AgendaLinks.Proofs.Listing.Values
import AgendaLinks.Proofs.Text.Casing

/-!
Calendars as a listing tells them. Every line with a bullet is a calendar, whose title follows the bullet;
its kind and its identifier are told by the last line that gives them before the next bullet. No other
line has a part in what is read, and so a listing may be cut before any bullet.
-/

namespace AgendaLinks.Listing

open Text

/-- A line tells a property of a calendar: two spaces, the name with some letters as capitals or none, a
colon, and the value up to the end of the line. -/
def Tells (name line value : Text) : Prop :=
  ∃ spelled : Text, spelled.map Char.toLower = name ∧
    line = "  ".toList ++ (spelled ++ ':' :: value)

/-- What lines tell of a property is the value in the last one that tells it, without the blanks around. -/
inductive Told (name : Text) : List Text → Option Text → Prop where
  | none {lines : List Text} : (∀ line ∈ lines, ∀ value, ¬Tells name line value) → Told name lines none
  | last {before after : List Text} {line value : Text} : Tells name line value →
      (∀ later ∈ after, ∀ other, ¬Tells name later other) →
      Told name (before ++ line :: after) (some (trim value))

/-- The calendar that an entry tells: the title behind the bullet, and what the other lines tell. -/
structure Describes (entry : List Text) (c : Calendar) : Prop where
  title : ∃ heading, entry.head? = some (bullet ++ heading) ∧ c.title = trim heading
  kind : Told "type".toList entry.tail c.kind
  uid : Told "uid".toList entry.tail c.uid

theorem Told.append_of_not_tells {name line : Text} {lines : List Text} {found : Option Text}
    (h : Told name lines found) (hline : ∀ value, ¬Tells name line value) :
    Told name (lines ++ [line]) found := by
  cases h with
  | none hlines =>
      apply Told.none
      rw [List.forall_mem_append, List.forall_mem_singleton]
      exact ⟨hlines, hline⟩
  | last hlast hafter =>
      rw [List.append_assoc, List.cons_append]
      apply Told.last hlast
      rw [List.forall_mem_append, List.forall_mem_singleton]
      exact ⟨hafter, hline⟩

/-- The value of a property that a line is read to tell. -/
def told? (name line : Text) : Option Text :=
  (property? 2 line).bind fun named => if lower named.1 = name then some (trim named.2) else none

theorem trim_getD_after? (value : Text) : trim ((after? [' '] value).getD value) = trim value := by
  cases hspace : after? [' '] value with
  | none => rfl
  | some rest =>
      rw [after?_eq_some_iff.1 hspace, Option.getD_some, List.singleton_append,
        trim_cons_of_isBlank (by decide)]

theorem isWord_of_isSmallLetter_toLower {c : Char} (h : IsSmallLetter c.toLower) : isWord c = true := by
  have hascii := ascii_of_isSmallLetter_toLower h
  obtain ⟨hlow, hhigh, -⟩ := h
  rw [toNat_toLower] at hlow hhigh
  rw [isWord, if_pos hascii]
  simp only [Bool.or_eq_true, Bool.and_eq_true, decide_eq_true_eq, beq_iff_eq]
  split_ifs at hlow hhigh <;> omega

theorem exists_tells_of_told? {name line found : Text} (hname : ∀ c ∈ name, IsSmallLetter c)
    (hline : '\n' ∉ chomp line) (h : told? name (chomp line) = some found) :
    ∃ value, Tells name line value ∧ trim value = found := by
  obtain ⟨⟨spelled, value⟩, hproperty, htold⟩ := Option.bind_eq_some_iff.1 h
  split_ifs at htold with hlower
  obtain ⟨rest, hchomp, hspelled, hword⟩ := exists_of_property? hproperty
  obtain ⟨ending, hwhole, hending⟩ := exists_eq_chomp_append line
  have hrest : '\n' ∉ rest := by
    rw [hchomp] at hline
    exact fun hmem => hline (by simp [hmem])
  rw [hchomp, property?_of_word hspelled hword hrest] at hproperty
  cases hproperty
  refine ⟨rest ++ ending, ⟨spelled, (lower_eq_iff hname).1 hlower, ?_⟩, ?_⟩
  · rw [hwhole, hchomp, List.append_assoc, List.append_assoc]
    rfl
  · rw [trim_append_of_isLineEnd rest hending, ← Option.some.inj htold, trim_getD_after?]

section

variable {name : Text} (hne : name ≠ []) (hname : ∀ c ∈ name, IsSmallLetter c)

include hne hname

theorem Tells.told?_eq {line value : Text} (h : Tells name line value) (hline : '\n' ∉ chomp line) :
    told? name (chomp line) = some (trim value) := by
  obtain ⟨spelled, hspelled, rfl⟩ := h
  have hchomp : chomp ("  ".toList ++ (spelled ++ ':' :: value)) =
      spaces 2 ++ (spelled ++ ':' :: chomp value) := by
    rw [← List.append_assoc, chomp_append_cons rfl, List.append_assoc]
    rfl
  have hletters : ∀ c ∈ spelled, isWord c = true := by
    rw [← hspelled, List.forall_mem_map] at hname
    exact fun c hc => isWord_of_isSmallLetter_toLower (hname c hc)
  have hspelledne : spelled ≠ [] := by
    rintro rfl
    exact hne hspelled.symm
  rw [hchomp] at hline ⊢
  have hvalue : '\n' ∉ chomp value := fun hmem => hline (by simp [hmem])
  rw [told?, property?_of_word hspelledne hletters hvalue, Option.bind_some,
    if_pos ((lower_eq_iff hname).2 hspelled), trim_getD_after?, trim_chomp]

/-- A line is read to tell what it tells. -/
theorem told?_eq_some_iff {line found : Text} (hline : '\n' ∉ chomp line) :
    told? name (chomp line) = some found ↔ ∃ value, Tells name line value ∧ trim value = found := by
  constructor
  · exact exists_tells_of_told? hname hline
  · rintro ⟨value, hvalue, rfl⟩
    exact hvalue.told?_eq hne hname hline

theorem not_tells_iff {line : Text} (hline : '\n' ∉ chomp line) :
    (∀ value, ¬Tells name line value) ↔ told? name (chomp line) = none := by
  rw [Option.eq_none_iff_forall_ne_some]
  constructor
  · intro hnone found hfound
    obtain ⟨value, hvalue, -⟩ := (told?_eq_some_iff hne hname hline).1 hfound
    exact hnone value hvalue
  · exact fun hnone value hvalue =>
      hnone _ ((told?_eq_some_iff hne hname hline).2 ⟨value, hvalue, rfl⟩)

/-- Taking what each line tells over what was told before leaves what the last one tells. -/
theorem told_foldl {lines : List Text} (hlines : ∀ line ∈ lines, '\n' ∉ chomp line) :
    Told name lines (lines.foldl (fun found line => (told? name (chomp line)).or found) none) := by
  -- the last line decides, so the induction is on it
  induction lines using List.reverseRecOn with
  | nil => exact .none nofun
  | append_singleton lines line ih =>
      rw [List.forall_mem_append, List.forall_mem_singleton] at hlines
      rw [List.foldl_append, List.foldl_cons, List.foldl_nil]
      cases htold : told? name (chomp line) with
      | none =>
          exact (ih hlines.1).append_of_not_tells ((not_tells_iff hne hname hlines.2).2 htold)
      | some found =>
          obtain ⟨value, htells, rfl⟩ := (told?_eq_some_iff hne hname hlines.2).1 htold
          exact .last htells nofun

end

theorem isSmallLetter_of_mem_type : ∀ c ∈ "type".toList, IsSmallLetter c := by decide

theorem isSmallLetter_of_mem_uid : ∀ c ∈ "uid".toList, IsSmallLetter c := by decide

/-- A line sets the kind and the identifier if it tells them, and nothing else. -/
theorem withProperty_eq (c : Calendar) (line : Text) :
    withProperty c line = { c with
      kind := (told? "type".toList line).or c.kind
      uid := (told? "uid".toList line).or c.uid } := by
  rw [withProperty, told?, told?]
  cases property? 2 line with
  | none => rfl
  | some named =>
      dsimp only [Option.bind_some]
      by_cases hkind : lower named.1 = "type".toList
      · rw [if_pos hkind, if_pos hkind, if_neg (by rw [hkind]; decide)]
        rfl
      · rw [if_neg hkind, if_neg hkind]
        by_cases huid : lower named.1 = "uid".toList
        · rw [if_pos huid, if_pos huid]
          rfl
        · rw [if_neg huid, if_neg huid]
          rfl

theorem foldl_withProperty (c : Calendar) (lines : List Text) :
    (lines.map chomp).foldl withProperty c = { c with
      kind := lines.foldl (fun found line => (told? "type".toList (chomp line)).or found) c.kind
      uid := lines.foldl (fun found line => (told? "uid".toList (chomp line)).or found) c.uid } := by
  induction lines generalizing c with
  | nil => rfl
  | cons line lines ih => rw [List.map_cons, List.foldl_cons, ih, withProperty_eq]; rfl

theorem withProperty_of_not_tells (c : Calendar) {line : Text} (hline : '\n' ∉ chomp line)
    (hkind : ∀ value, ¬Tells "type".toList line value)
    (huid : ∀ value, ¬Tells "uid".toList line value) : withProperty c (chomp line) = c := by
  rw [not_tells_iff (by decide) isSmallLetter_of_mem_type hline] at hkind
  rw [not_tells_iff (by decide) isSmallLetter_of_mem_uid hline] at huid
  rw [withProperty_eq, hkind, huid]
  rfl

theorem calendars_eq (lines : List Text) :
    calendars lines = (unplacedSections lines).map Section.calendar := by
  rw [calendars, unplacedSections, List.map_map]
  rfl

theorem value_readCalendars (lines : List Text) : (readCalendars lines).value = calendars lines := rfl

theorem calendars_append (before : List Text) {after : List Text} (hafter : StartsEntry after) :
    calendars (before ++ after) = calendars before ++ calendars after := by
  rw [calendars_eq, calendars_eq, calendars_eq, unplacedSections_append before hafter, List.map_append]

/-- The lines before the first bullet tell nothing. -/
theorem calendars_append_of_no_bullet {preamble : List Text} (rest : List Text)
    (h : ∀ line ∈ preamble, isBullet line = false) : calendars (preamble ++ rest) = calendars rest := by
  rw [calendars_eq, calendars_eq, unplacedSections, sections, splitFrom_append_of_no_bullet 0 rest h,
    (splitFrom_unplaced (0 + preamble.length) 0 rest).2]
  rfl

/-- The lines of an entry are read as the one calendar that they tell. -/
theorem exists_describes {entry : List Text} (h : IsEntry entry)
    (hlines : ∀ line ∈ entry, '\n' ∉ chomp line) : ∃ c, calendars entry = [c] ∧ Describes entry c := by
  obtain ⟨first, rest, rfl, hfirst, hrest⟩ := h
  obtain ⟨heading, rfl⟩ := isBullet_iff.1 hfirst
  have hheading : afterBullet? (chomp (bullet ++ heading)) = some (chomp heading) := by
    rw [chomp_bullet_append, afterBullet?_bullet_append]
  have hbelow : ∀ line ∈ rest, '\n' ∉ chomp line :=
    fun line hline => hlines line (List.mem_cons_of_mem _ hline)
  refine ⟨Section.calendar ⟨chomp heading, rest.map chomp, 0⟩, ?_, ?_⟩
  · rw [calendars_eq, unplacedSections_entry hheading hrest]
    rfl
  · rw [Section.calendar, foldl_withProperty, trim_chomp]
    exact {
      title := ⟨heading, rfl, rfl⟩
      kind := told_foldl (by decide) isSmallLetter_of_mem_type hbelow
      uid := told_foldl (by decide) isSmallLetter_of_mem_uid hbelow }

theorem forall₂_describes {entries : List (List Text)} (h : ∀ entry ∈ entries, IsEntry entry)
    (hlines : ∀ entry ∈ entries, ∀ line ∈ entry, '\n' ∉ chomp line) :
    List.Forall₂ Describes entries (calendars entries.flatten) := by
  induction entries with
  | nil => exact .nil
  | cons entry entries ih =>
      obtain ⟨hentry, hrest⟩ := List.forall_mem_cons.1 h
      obtain ⟨hentrylines, hrestlines⟩ := List.forall_mem_cons.1 hlines
      obtain ⟨c, hread, hdescribes⟩ := exists_describes hentry hentrylines
      rw [List.flatten_cons, calendars_append entry (startsEntry_flatten hrest), hread]
      exact .cons hdescribes (ih hrest hrestlines)

/-- A line that changes no calendar may be left out of what stands between two bullets. -/
theorem splitFrom_insert (m n : Nat) (before after : List Text) {line : Text}
    (hbullet : isBullet line = false) (hsame : ∀ c, withProperty c (chomp line) = c) :
    (∀ c, (splitFrom m (before ++ line :: after)).1.foldl withProperty c =
        (splitFrom n (before ++ after)).1.foldl withProperty c) ∧
      (splitFrom m (before ++ line :: after)).2.map Section.calendar =
        (splitFrom n (before ++ after)).2.map Section.calendar := by
  induction before generalizing m n with
  | nil =>
      have hline : afterBullet? (chomp line) = none := by
        rw [afterBullet?_eq_none_iff, isBullet_chomp]
        exact hbullet
      obtain ⟨hbody, hsections⟩ := splitFrom_unplaced (m + 1) n after
      rw [List.nil_append, List.nil_append, splitFrom_of_not_bullet m after hline]
      refine ⟨fun c => ?_, ?_⟩
      · rw [List.foldl_cons, hsame, hbody]
      · have hcalendars := congrArg (List.map Section.calendar) hsections
        rwa [List.map_map, List.map_map] at hcalendars
  | cons raw before ih =>
      obtain ⟨hbody, hsections⟩ := ih (m + 1) (n + 1)
      rw [List.cons_append, List.cons_append]
      cases hraw : afterBullet? (chomp raw) with
      | some heading =>
          obtain ⟨reach, hm⟩ := splitFrom_of_bullet m (before ++ line :: after) hraw
          obtain ⟨reach', hn⟩ := splitFrom_of_bullet n (before ++ after) hraw
          rw [hm, hn]
          refine ⟨fun c => rfl, ?_⟩
          rw [List.map_cons, List.map_cons, hsections, Section.calendar, Section.calendar, hbody]
      | none =>
          rw [splitFrom_of_not_bullet m _ hraw, splitFrom_of_not_bullet n _ hraw]
          exact ⟨fun c => hbody _, hsections⟩

/-- A line that tells no property may be left out. -/
theorem calendars_insert (before after : List Text) {line : Text} (hbullet : isBullet line = false)
    (hsame : ∀ c, withProperty c (chomp line) = c) :
    calendars (before ++ line :: after) = calendars (before ++ after) :=
  (splitFrom_insert 0 0 before after hbullet hsame).2

/-- A listing has one calendar for each line with a bullet, in the same order, which is told by that line
and the lines up to the next bullet. A line before the first bullet, or one that begins no calendar and
tells neither a kind nor an identifier, may be left out. So a listing may be cut before any bullet, and its
calendars are those of its two parts. -/
theorem readCalendars_told :
    (∀ lines : List Text, (∀ line ∈ lines, '\n' ∉ chomp line) → ∃ preamble entries,
      lines = preamble ++ List.flatten entries ∧ (∀ line ∈ preamble, isBullet line = false) ∧
      (∀ entry ∈ entries, IsEntry entry) ∧
      List.Forall₂ Describes entries (readCalendars lines).value) ∧
    (∀ (before : List Text) (line : Text) (after : List Text),
      '\n' ∉ chomp line → isBullet line = false →
      ((∀ earlier ∈ before, isBullet earlier = false) ∨
        (∀ value, ¬Tells "type".toList line value) ∧ ∀ value, ¬Tells "uid".toList line value) →
      (readCalendars (before ++ line :: after)).value = (readCalendars (before ++ after)).value) ∧
    ∀ before after : List Text, StartsEntry after →
      (readCalendars (before ++ after)).value =
        (readCalendars before).value ++ (readCalendars after).value := by
  refine ⟨fun lines hlines => ?_, fun before line after hline hbullet hfree => ?_,
    fun before after hafter => calendars_append before hafter⟩
  · obtain ⟨preamble, entries, rfl, hpreamble, hentries⟩ := exists_entries lines
    refine ⟨preamble, entries, rfl, hpreamble, hentries, ?_⟩
    rw [value_readCalendars, calendars_append_of_no_bullet _ hpreamble]
    refine forall₂_describes hentries fun entry hentry line hline => hlines line ?_
    exact List.mem_append_right _ (List.mem_flatten_of_mem hentry hline)
  · rw [value_readCalendars, value_readCalendars]
    rcases hfree with hbefore | ⟨hkind, huid⟩
    · have hwith : ∀ earlier ∈ before ++ [line], isBullet earlier = false :=
        List.forall_mem_append.2 ⟨hbefore, List.forall_mem_singleton.2 hbullet⟩
      rw [List.append_cons, calendars_append_of_no_bullet after hwith,
        calendars_append_of_no_bullet after hbefore]
    · exact calendars_insert before after hbullet fun c =>
        withProperty_of_not_tells c hline hkind huid

/-- An identifier that stands before the first bullet, a kind that is told twice, and a property that
calendars do not have. -/
theorem readCalendars_told_twice :
    (∀ line ∈ ["  UID: lost\n".toList, "• Work \r\n".toList, "  Type: CalDAV\n".toList,
        "  color: blue\n".toList, "  TYPE:Local\n".toList, "• Home".toList], '\n' ∉ chomp line) ∧
    (∃ preamble entries,
      ["  UID: lost\n".toList, "• Work \r\n".toList, "  Type: CalDAV\n".toList,
        "  color: blue\n".toList, "  TYPE:Local\n".toList, "• Home".toList] =
          preamble ++ List.flatten entries ∧ (∀ line ∈ preamble, isBullet line = false) ∧
      (∀ entry ∈ entries, IsEntry entry) ∧
      List.Forall₂ Describes entries
        [⟨"Work".toList, some "Local".toList, none⟩, ⟨"Home".toList, none, none⟩]) ∧
    (isBullet "  color: blue\n".toList = false ∧
      (∀ value, ¬Tells "type".toList "  color: blue\n".toList value) ∧
      (∀ value, ¬Tells "uid".toList "  color: blue\n".toList value) ∧
      (readCalendars (["• Work \r\n".toList, "  Type: CalDAV\n".toList] ++
        "  color: blue\n".toList :: ["  TYPE:Local\n".toList])).value =
        (readCalendars (["• Work \r\n".toList, "  Type: CalDAV\n".toList] ++
          ["  TYPE:Local\n".toList])).value) ∧
    (StartsEntry ["• Home".toList] ∧
      (readCalendars (["• Work \r\n".toList, "  TYPE:Local\n".toList] ++ ["• Home".toList])).value =
        (readCalendars ["• Work \r\n".toList, "  TYPE:Local\n".toList]).value ++
          (readCalendars ["• Home".toList]).value) := by
  obtain ⟨htold, hleft, hcut⟩ := readCalendars_told
  have hlines : ∀ line ∈ ["  UID: lost\n".toList, "• Work \r\n".toList, "  Type: CalDAV\n".toList,
      "  color: blue\n".toList, "  TYPE:Local\n".toList, "• Home".toList], '\n' ∉ chomp line := by
    decide
  have hread : (readCalendars ["  UID: lost\n".toList, "• Work \r\n".toList,
      "  Type: CalDAV\n".toList, "  color: blue\n".toList, "  TYPE:Local\n".toList,
      "• Home".toList]).value =
        [⟨"Work".toList, some "Local".toList, none⟩, ⟨"Home".toList, none, none⟩] := by
    decide +kernel
  have hline : '\n' ∉ chomp "  color: blue\n".toList := by decide
  have hkind : ∀ value, ¬Tells "type".toList "  color: blue\n".toList value :=
    (not_tells_iff (by decide) isSmallLetter_of_mem_type hline).2 (by decide +kernel)
  have huid : ∀ value, ¬Tells "uid".toList "  color: blue\n".toList value :=
    (not_tells_iff (by decide) isSmallLetter_of_mem_uid hline).2 (by decide +kernel)
  have hstarts : StartsEntry ["• Home".toList] := by
    intro line hhead
    cases hhead
    rfl
  refine ⟨hlines, hread ▸ htold _ hlines, ⟨rfl, hkind, huid, ?_⟩, hstarts, hcut _ _ hstarts⟩
  exact hleft _ _ _ hline rfl (Or.inr ⟨hkind, huid⟩)

end AgendaLinks.Listing
