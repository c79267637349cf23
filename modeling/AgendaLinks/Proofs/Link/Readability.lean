import AgendaLinks.Proofs.Link.Agenda

/-!
Links whose parts cannot be told. Such a link may still count as one that can be followed, since the
two are decided by different rules: what stands before the host is looked at by the one and not by the
other. A link that cannot be followed or that is ignored costs an event nothing. A link that is kept
although its parts cannot be told costs the event all of its links.
-/

namespace AgendaLinks.Link

open Text

/-- Whether the parts of a link can be told. -/
def isReadable (t : Text) : Bool := (Uri.ofText t).isOk

/-- The links that can be followed and whose parts can be told. -/
def sound (links : List Text) : List Text :=
  links.filter fun t => (isValid t).value && isReadable t

/-- What links are told of those found in an event: one of those to meetings, changed for the account,
and then the others, each once. -/
def chosenFrom (c : Configuration) (e : Event) (links : List Text) :
    Except UriFault (List Text) := do
  let sorted ← (sortLinks c e links).value
  return combine (← best? sorted.meetings) sorted.others

/-- The links that an event gets for those found in it; none if they cannot be told. -/
def linksFrom (c : Configuration) (e : Event) (links : List Text) : List Text :=
  (chosenFrom c e links).toOption.getD []

variable {c : Configuration} {e : Event}

theorem exists_fault_of_not_isReadable {t : Text} (h : isReadable t = false) :
    ∃ fault, Uri.ofText t = .error fault := by
  rw [isReadable] at h
  cases hparts : Uri.ofText t with
  | error fault => exact ⟨fault, rfl⟩
  | ok u =>
      rw [hparts] at h
      cases h

theorem mem_kept {t : Text} {links : List Text} :
    t ∈ kept c e links ↔
      t ∈ links ∧ (isValid t).value = true ∧ (isIgnored c.ignore e t).value = false := by
  rw [kept, List.mem_filter, Bool.and_eq_true, Bool.not_eq_true']

theorem value_sortLinks_cons (t : Text) (links : List Text) :
    (sortLinks c e (t :: links)).value = do
      let first ← (sortOne c e t).value
      let rest ← (sortLinks c e links).value
      return ⟨first.meetings ++ rest.meetings, first.others ++ rest.others⟩ := by
  rw [sortLinks, Logged.value_bind]
  cases (sortOne c e t).value with
  | error fault => rfl
  | ok first =>
      simp only [Logged.value_bind, Logged.value_pure]
      cases (sortLinks c e links).value <;> rfl

/-- A link that cannot be followed or that a rule ignores is left out before its parts are looked at. -/
theorem value_sortOne_of_not_kept {t : Text}
    (h : ¬((isValid t).value = true ∧ (isIgnored c.ignore e t).value = false)) :
    (sortOne c e t).value = .ok {} := by
  rw [sortOne, Logged.value_bind]
  cases hvalid : (isValid t).value with
  | false => rfl
  | true =>
      have hignored : (isIgnored c.ignore e t).value = true :=
        Bool.not_eq_false _ ▸ fun hnot => h ⟨hvalid, hnot⟩
      rw [Bool.not_true, if_neg Bool.false_ne_true, Logged.value_bind, hignored, if_pos rfl]
      rfl

theorem value_sortOne_of_unreadable {t : Text} (hvalid : (isValid t).value = true)
    (hignored : (isIgnored c.ignore e t).value = false) (h : isReadable t = false) :
    ∃ fault, (sortOne c e t).value = .error fault := by
  obtain ⟨fault, hparts⟩ := exists_fault_of_not_isReadable h
  have hkind : kind? t = .error fault := by
    rw [kind?, hparts]
    rfl
  refine ⟨fault, ?_⟩
  rw [sortOne, Logged.value_bind, hvalid, Bool.not_true, if_neg Bool.false_ne_true, Logged.value_bind,
    hignored, if_neg Bool.false_ne_true, hkind]
  rfl

/-- One link that is kept and cannot be read stops the sorting, wherever it stands. -/
theorem value_sortLinks_of_unreadable {links : List Text} {t : Text} (ht : t ∈ kept c e links)
    (h : isReadable t = false) : ∃ fault, (sortLinks c e links).value = .error fault := by
  obtain ⟨hmem, hvalid, hignored⟩ := mem_kept.1 ht
  obtain ⟨fault, hfault⟩ := value_sortOne_of_unreadable hvalid hignored h
  clear ht
  induction links with
  | nil => cases hmem
  | cons u links ih =>
      rw [value_sortLinks_cons]
      cases hfirst : (sortOne c e u).value with
      | error fault' => exact ⟨fault', rfl⟩
      | ok first =>
          have hrest : t ∈ links := by
            rcases List.mem_cons.1 hmem with rfl | hrest
            · rw [hfault] at hfirst
              cases hfirst
            · exact hrest
          obtain ⟨fault', hfault'⟩ := ih hrest
          exact ⟨fault', by rw [hfault']; rfl⟩

/-- If every kept link can be read, nothing is lost with the links that are not sound. -/
theorem value_sortLinks_sound {links : List Text}
    (h : ∀ t ∈ kept c e links, isReadable t = true) :
    (sortLinks c e (sound links)).value = (sortLinks c e links).value := by
  induction links with
  | nil => rfl
  | cons t links ih =>
      have hrest : ∀ u ∈ kept c e links, isReadable u = true := fun u hu => by
        obtain ⟨hmem, hkept⟩ := mem_kept.1 hu
        exact h u (mem_kept.2 ⟨List.mem_cons_of_mem _ hmem, hkept⟩)
      rw [value_sortLinks_cons, ← ih hrest, sound, List.filter_cons]
      split_ifs with hsound
      · rw [value_sortLinks_cons]
        rfl
      · have hleft : (sortOne c e t).value = .ok {} := by
          refine value_sortOne_of_not_kept fun hkept => hsound ?_
          rw [Bool.and_eq_true]
          exact ⟨hkept.1, h t (mem_kept.2 ⟨List.mem_cons_self, hkept⟩)⟩
        rw [hleft, sound]
        cases (sortLinks c e (links.filter _)).value <;> rfl

theorem kind?_of_mem_others_of_sortOne {t u : Text} {sorted : Sorted}
    (h : (sortOne c e t).value = .ok sorted) (hu : u ∈ sorted.others) :
    kind? u = .ok (some .other) := by
  by_cases hkept : (isValid t).value = true ∧ (isIgnored c.ignore e t).value = false
  · rw [sortOne, Logged.value_bind, hkept.1, Bool.not_true, if_neg Bool.false_ne_true,
      Logged.value_bind, hkept.2, if_neg Bool.false_ne_true] at h
    cases hkind : kind? t with
    | error fault =>
        rw [hkind] at h
        cases h
    | ok kind =>
        rw [hkind] at h
        rcases kind with _ | _ | _
        · cases h
          cases hu
        · obtain ⟨changed, -, rfl⟩ := exists_of_map_eq_ok h
          cases hu
        · cases h
          rw [List.mem_singleton.1 hu, hkind]
  · rw [value_sortOne_of_not_kept hkept] at h
    cases h
    cases hu

theorem kind?_of_mem_others_of_sortLinks {links : List Text} {sorted : Sorted}
    (h : (sortLinks c e links).value = .ok sorted) {u : Text} (hu : u ∈ sorted.others) :
    kind? u = .ok (some .other) := by
  induction links generalizing sorted with
  | nil =>
      cases h
      cases hu
  | cons t links ih =>
      rw [value_sortLinks_cons] at h
      obtain ⟨first, hfirst, h⟩ := exists_of_bind_eq_ok h
      obtain ⟨rest, hrest, h⟩ := exists_of_bind_eq_ok h
      cases h
      rcases List.mem_append.1 hu with hu | hu
      · exact kind?_of_mem_others_of_sortOne hfirst hu
      · exact ih hrest hu

/-- Of the links that are told, the first one can be told to lead to a meeting or not. -/
theorem leadsToMeeting_of_chosenFrom {found links : List Text}
    (h : chosenFrom c e found = .ok links) : ∃ first, leadsToMeeting links = .ok first := by
  obtain ⟨sorted, hsorted, h⟩ := exists_of_bind_eq_ok h
  obtain ⟨meeting, hmeeting, h⟩ := exists_of_bind_eq_ok h
  cases h
  cases hlinks : combine meeting sorted.others with
  | nil => exact ⟨false, rfl⟩
  | cons t links =>
      have hkind : ∃ kind, kind? t = .ok kind := by
        rcases mem_combine (hlinks ▸ List.mem_cons_self) with rfl | hmem
        · obtain ⟨s, -, -, -, hscore, -⟩ := isBest_of_best? hmeeting
          obtain ⟨u, hparts, -⟩ := exists_of_map_eq_ok hscore
          exact ⟨_, by rw [kind?, hparts]; rfl⟩
        · exact ⟨_, kind?_of_mem_others_of_sortLinks hsorted hmem⟩
      obtain ⟨kind, hkind⟩ := hkind
      exact ⟨_, by rw [leadsToMeeting, hkind]; rfl⟩

theorem value_linksOf_of_found {found : List Text} (h : ofEvent e = .ok found) :
    (linksOf c e).value = (chosenFrom c e found).mapError .uri := by
  rw [linksOf, h, chosenFrom]
  simp only [Logged.value_bind]
  cases (sortLinks c e found).value with
  | error fault => rfl
  | ok sorted =>
      simp only [Logged.value_pure]
      cases hbest : best? sorted.meetings with
      | error fault =>
          simp only [bind, Except.bind, hbest]
          rfl
      | ok meeting =>
          simp only [bind, Except.bind, hbest]
          rfl

/-- An event gets the links that are told of those found in it. -/
theorem value_withLinks_eq (c : Configuration) (e : Event) :
    (withLinks c e).value.1 = { e with urls := linksFrom c e (extracted e) } := by
  rw [withLinks, Logged.value_bind, linksFrom]
  cases hfound : ofEvent e with
  | error fault =>
      have hlinks : (linksOf c e).value = .error (.markup fault) := by
        rw [linksOf, hfound]
        rfl
      rw [hlinks, extracted, hfound]
      rfl
  | ok found =>
      have hextracted : extracted e = found := by
        rw [extracted, hfound]
        rfl
      rw [value_linksOf_of_found hfound, hextracted]
      cases hchosen : chosenFrom c e found with
      | error fault => rfl
      | ok links =>
          obtain ⟨first, hfirst⟩ := leadsToMeeting_of_chosenFrom hchosen
          simp only [Except.mapError, hfirst]
          rfl

theorem linksFrom_sound {links : List Text} (h : ∀ t ∈ kept c e links, isReadable t = true) :
    linksFrom c e (sound links) = linksFrom c e links := by
  rw [linksFrom, linksFrom, chosenFrom, chosenFrom, value_sortLinks_sound h]

theorem linksFrom_of_unreadable {links : List Text} {t : Text} (ht : t ∈ kept c e links)
    (h : isReadable t = false) : linksFrom c e links = [] := by
  obtain ⟨fault, hfault⟩ := value_sortLinks_of_unreadable ht h
  rw [linksFrom, chosenFrom, hfault]
  rfl

/-- Whatever the other events are, an event gets what its sound links alone would give it exactly if
every link that is kept can be read, or if the sound ones give nothing. One kept link that cannot be
read leaves the event without links. -/
theorem processEvents_sound (c : Configuration) (e : Event) :
    ∃ links, (∀ before after, (processEvents c (before ++ e :: after)).value =
        (processEvents c before).value ++ { e with urls := links } ::
          (processEvents c after).value) ∧
      (links = linksFrom c e (sound (extracted e)) ↔
        (∀ t ∈ kept c e (extracted e), isReadable t = true) ∨
          linksFrom c e (sound (extracted e)) = []) ∧
      ((∃ t ∈ kept c e (extracted e), isReadable t = false) → links = []) := by
  have hnone : (∃ t ∈ kept c e (extracted e), isReadable t = false) →
      linksFrom c e (extracted e) = [] := by
    rintro ⟨t, ht, hunreadable⟩
    exact linksFrom_of_unreadable ht hunreadable
  refine ⟨linksFrom c e (extracted e), fun before after => ?_, ⟨fun hsame => ?_, ?_⟩, hnone⟩
  · rw [value_processEvents_append, value_withLinks_eq]
  · by_cases hread : ∀ t ∈ kept c e (extracted e), isReadable t = true
    · exact Or.inl hread
    · right
      rw [← hsame]
      exact hnone (by simpa using hread)
  · rintro (hread | hempty)
    · exact (linksFrom_sound hread).symm
    · by_cases hread : ∀ t ∈ kept c e (extracted e), isReadable t = true
      · exact (linksFrom_sound hread).symm
      · rw [hempty]
        exact hnone (by simpa using hread)

/-- A bracket before the host, where no rule for following a link looks, costs an event the other link
too, which is sound and would be all it gets. -/
theorem processEvents_bracket_before_host :
    ∃ e : Event, extracted e = ["https://team[@a.org/x".toList, "https://b.org/y".toList] ∧
      (isValid "https://team[@a.org/x".toList).value = true ∧
      linksFrom {} e (sound (extracted e)) = ["https://b.org/y".toList] ∧
      (processEvents {} [e]).value.map (·.urls) = [[]] := by
  refine ⟨
    { title := "Call".toList, calendar := "Work".toList,
      notes := some "https://team[@a.org/x https://b.org/y".toList }, ?_⟩
  decide +kernel

end AgendaLinks.Link
