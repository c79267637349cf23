import AgendaLinks.Link.Agenda
import AgendaLinks.Proofs.Link.Augmentation
import AgendaLinks.Proofs.Link.Choice
import AgendaLinks.Proofs.Link.Extraction

/-!
The links of an event from end to end. If the authorities of its links are plain, every step has an
answer: the links to meetings stay links to meetings when they are changed, so they have scores, and the
best one of them comes before the others.
-/

namespace AgendaLinks.Link

open Text Uri

variable (c : Configuration) (e : Event)

/-- The links that can be followed and that no rule ignores. -/
def kept (links : List Text) : List Text :=
  links.filter fun t => (isValid t).value && !(isIgnored c.ignore e t).value

/-- The links of a kind. -/
def ofKind (kind : Kind) (links : List Text) : List Text :=
  links.filter fun t => kind? t = .ok (some kind)

/-- The links of an event that are kept and lead to a meeting. -/
def meetingsOf : List Text := ofKind .meeting (kept c e (extracted e))

/-- The links of an event that are kept and lead to something else. -/
def othersOf : List Text := ofKind .other (kept c e (extracted e))

/-- A link to a meeting and what it is changed to, which can be read and leads to a meeting too. -/
def ChangesTo (t u : Text) : Prop :=
  (augment c e t).value = .ok u ∧ kind? u = .ok (some .meeting) ∧ ∃ w : Written, w.text = u

theorem value_sortOne {t : Text} (ht : ∃ w : Written, w.text = t) :
    ∃ sorted : Sorted, (sortOne c e t).value = .ok sorted ∧
      List.Forall₂ (ChangesTo c e) (ofKind .meeting (kept c e [t])) sorted.meetings ∧
      sorted.others = ofKind .other (kept c e [t]) := by
  obtain ⟨w, rfl⟩ := ht
  rw [sortOne, Logged.value_bind, kept, List.filter_singleton]
  cases hvalid : (isValid w.text).value with
  | false => exact ⟨{}, rfl, .nil, rfl⟩
  | true =>
      cases hignored : (isIgnored c.ignore e w.text).value with
      | true =>
          refine ⟨{}, ?_, .nil, rfl⟩
          rw [Bool.not_true, if_neg Bool.false_ne_true, Logged.value_bind, hignored, if_pos rfl]
          rfl
      | false =>
          rw [Bool.not_true, if_neg Bool.false_ne_true, Logged.value_bind, hignored,
            if_neg Bool.false_ne_true]
          cases hkind : kindOf w.parts.host w.parts.path with
          | none =>
              have hread : kind? w.text = .ok none := by
                rw [kind?_text, hkind]
              refine ⟨{}, ?_, ?_, ?_⟩
              · rw [hread]
                rfl
              · simp [ofKind, hread]
              · simp [ofKind, hread]
          | some kind =>
              have hread : kind? w.text = .ok (some kind) := by
                rw [kind?_text, hkind]
              cases kind with
              | other =>
                  refine ⟨{ others := [w.text] }, ?_, ?_, ?_⟩
                  · rw [hread]
                    rfl
                  · simp [ofKind, hread]
                  · simp [ofKind, hread]
              | meeting =>
                  obtain ⟨w', haugmented, hmeeting⟩ := augment_text c e hread
                  refine ⟨{ meetings := [w'.text] }, ?_, ?_, ?_⟩
                  · rw [hread]
                    simp only [Logged.value_bind, haugmented]
                    rfl
                  · simp [ofKind, hread, ChangesTo, haugmented, hmeeting]
                  · simp [ofKind, hread]

theorem value_sortLinks {links : List Text} (hlinks : ∀ t ∈ links, ∃ w : Written, w.text = t) :
    ∃ sorted : Sorted, (sortLinks c e links).value = .ok sorted ∧
      List.Forall₂ (ChangesTo c e) (ofKind .meeting (kept c e links)) sorted.meetings ∧
      sorted.others = ofKind .other (kept c e links) := by
  induction links with
  | nil => exact ⟨{}, rfl, .nil, rfl⟩
  | cons t links ih =>
      obtain ⟨first, hfirst, hmeetings, hothers⟩ := value_sortOne c e (hlinks t List.mem_cons_self)
      obtain ⟨rest, hrest, hmeetings', hothers'⟩ := ih fun u hu =>
        hlinks u (List.mem_cons_of_mem _ hu)
      have happend (kind : Kind) : ofKind kind (kept c e (t :: links)) =
          ofKind kind (kept c e [t]) ++ ofKind kind (kept c e links) := by
        rw [← List.singleton_append, kept, List.filter_append, ofKind, List.filter_append]
        rfl
      refine ⟨⟨first.meetings ++ rest.meetings, first.others ++ rest.others⟩, ?_, ?_, ?_⟩
      · rw [sortLinks, Logged.value_bind, hfirst]
        simp only [Logged.value_bind, Logged.value_pure, hrest]
        rfl
      · rw [happend]
        exact List.rel_append hmeetings hmeetings'
      · rw [happend, hothers, hothers']

/-- The link that is chosen of links to meetings: what one of them is changed to, a link to a meeting
with the highest score of all that they are changed to, which none before it reaches. -/
def IsChosen (meetings : List Text) (u : Text) : Prop :=
  ∃ before m after s, meetings = before ++ m :: after ∧ (augment c e m).value = .ok u ∧
    kind? u = .ok (some .meeting) ∧ score u = .ok s ∧
    (∀ m' ∈ meetings, ∃ u' n, (augment c e m').value = .ok u' ∧ score u' = .ok n ∧ n ≤ s) ∧
    ∀ m' ∈ before, ∃ u' n, (augment c e m').value = .ok u' ∧ score u' = .ok n ∧ n < s

variable {c e}

theorem isChosen_of_isBest {meetings changed : List Text}
    (h : List.Forall₂ (ChangesTo c e) meetings changed) {u : Text} {s : Nat}
    (hbest : IsBest changed u s) : IsChosen c e meetings u := by
  obtain ⟨before, after, rfl, hscore, hall, hbefore⟩ := hbest
  obtain ⟨before', m, after', hmeetings, hchanged, haugmented, hkind, -⟩ :=
    exists_append_of_forall₂ h
  refine ⟨before', m, after', s, hmeetings, haugmented, hkind, hscore, ?_, ?_⟩
  · intro m' hm'
    obtain ⟨u', hu', haugmented', -⟩ := exists_of_mem_left_of_forall₂ h hm'
    obtain ⟨n, hn, hle⟩ := hall u' hu'
    exact ⟨u', n, haugmented', hn, hle⟩
  · intro m' hm'
    obtain ⟨u', hu', haugmented', -⟩ := exists_of_mem_left_of_forall₂ hchanged hm'
    obtain ⟨n, hn, hless⟩ := hbefore u' hu'
    exact ⟨u', n, haugmented', hn, hless⟩

theorem scores_of_changesTo {meetings changed : List Text}
    (h : List.Forall₂ (ChangesTo c e) meetings changed) : ∀ u ∈ changed, ∃ n, score u = .ok n := by
  intro u hu
  obtain ⟨m, -, -, -, w, rfl⟩ := exists_of_mem_of_forall₂ h hu
  exact ⟨_, score_text w⟩

/-- Links of an event: the chosen one if there are links to meetings, and the others, each once. -/
def AreLinks (c : Configuration) (e : Event) (links : List Text) : Prop :=
  (meetingsOf c e = [] → links = (othersOf c e).eraseDups) ∧
    (meetingsOf c e ≠ [] → ∃ u, IsChosen c e (meetingsOf c e) u ∧ links = u :: (othersOf c e).eraseDups)

theorem kind?_of_mem_others {t : Text} (h : t ∈ (othersOf c e).eraseDups) :
    kind? t = .ok (some .other) := by
  rw [List.mem_eraseDups, othersOf, ofKind, List.mem_filter, decide_eq_true_eq] at h
  exact h.2

theorem IsChosen.not_mem_others {meetings : List Text} {u : Text} (h : IsChosen c e meetings u) :
    u ∉ (othersOf c e).eraseDups := by
  intro hmem
  obtain ⟨-, -, -, -, -, -, hkind, -⟩ := h
  rw [kind?_of_mem_others hmem] at hkind
  cases hkind

theorem AreLinks.nodup {links : List Text} (h : AreLinks c e links) : links.Nodup := by
  have hothers : (othersOf c e).eraseDups.Nodup := by
    rw [← distinct_eq_eraseDups]
    exact nodup_distinct _
  by_cases hmeetings : meetingsOf c e = []
  · rw [h.1 hmeetings]
    exact hothers
  · obtain ⟨u, hu, rfl⟩ := h.2 hmeetings
    exact List.nodup_cons.2 ⟨hu.not_mem_others, hothers⟩

/-- The first of the links can be told to lead to a meeting or not. -/
theorem AreLinks.leadsToMeeting {links : List Text} (h : AreLinks c e links) :
    ∃ first, Link.leadsToMeeting links = .ok first := by
  cases links with
  | nil => exact ⟨false, rfl⟩
  | cons t links =>
      have hkind : ∃ kind, kind? t = .ok kind := by
        by_cases hmeetings : meetingsOf c e = []
        · have hmem : t ∈ (othersOf c e).eraseDups := by
            rw [← h.1 hmeetings]
            exact List.mem_cons_self
          exact ⟨_, kind?_of_mem_others hmem⟩
        · obtain ⟨u, ⟨-, -, -, -, -, -, hkind, -⟩, hlinks⟩ := h.2 hmeetings
          cases hlinks
          exact ⟨_, hkind⟩
      obtain ⟨kind, hkind⟩ := hkind
      exact ⟨_, by rw [Link.leadsToMeeting, hkind]; rfl⟩

/-- The links of an event are told if the authorities of the found ones are plain. -/
theorem value_linksOf {found : List Text} (hfound : ofEvent e = .ok found)
    (hplain : ∀ t ∈ extracted e, IsPlainAuthority (writtenAuthority t)) :
    ∃ links, (linksOf c e).value = .ok links ∧ AreLinks c e links := by
  have hextracted : extracted e = found := by
    rw [extracted, hfound]
    rfl
  have hwritten : ∀ t ∈ found, ∃ w : Written, w.text = t := by
    intro t ht
    rw [← hextracted] at ht
    obtain ⟨shown, hfind⟩ := exists_of_mem_extracted ht
    exact exists_written hfind (hplain t ht)
  obtain ⟨sorted, hsorted, hmeetings, hothers⟩ := value_sortLinks c e hwritten
  rw [← hextracted, ← meetingsOf] at hmeetings
  rw [← hextracted, ← othersOf] at hothers
  rw [linksOf, hfound]
  simp only [Logged.value_bind, hsorted, Logged.value_pure, hothers]
  rcases best?_spec (scores_of_changesTo hmeetings) with ⟨hnone, hbest⟩ | ⟨u, s, hbest, hisBest⟩
  · have hempty : meetingsOf c e = [] := by
      rw [hnone] at hmeetings
      exact List.forall₂_nil_right_iff.1 hmeetings
    rw [hbest]
    exact ⟨_, rfl, fun _ => combine_none _, fun hne => absurd hempty hne⟩
  · have hchosen := isChosen_of_isBest hmeetings hisBest
    have hne : u ≠ [] := by
      rintro rfl
      obtain ⟨-, -, -, -, -, -, hkind, -⟩ := hchosen
      exact absurd hkind (by decide)
    have hmem : u ∉ othersOf c e := fun hmem =>
      hchosen.not_mem_others (List.mem_eraseDups.2 hmem)
    rw [hbest]
    refine ⟨_, rfl, fun hempty => ?_, fun _ => ⟨u, hchosen, combine_some hne hmem⟩⟩
    obtain ⟨before, m, after, -, hmeetings, -⟩ := hchosen
    rw [hempty] at hmeetings
    exact absurd hmeetings (by simp)

theorem sortLinks_with_urls (urls links : List Text) :
    sortLinks c { e with urls := urls } links = sortLinks c e links := by
  induction links with
  | nil => rfl
  | cons t links ih =>
      rw [sortLinks, sortLinks, ih]
      rfl

/-- The links that an event had before have no part in those that it gets. -/
theorem linksOf_with_urls (urls : List Text) :
    linksOf c { e with urls := urls } = linksOf c e := by
  have hfound : ofEvent { e with urls := urls } = ofEvent e := rfl
  rw [linksOf, linksOf, hfound]
  simp only [sortLinks_with_urls]

theorem value_withLinks (hplain : ∀ t ∈ extracted e, IsPlainAuthority (writtenAuthority t)) :
    ∃ links, AreLinks c e links ∧
      ∀ urls, (withLinks c { e with urls := urls }).value.1 = { e with urls := links } := by
  cases hfound : ofEvent e with
  | error fault =>
      have hextracted : extracted e = [] := by
        rw [extracted, hfound]
        rfl
      refine ⟨[], ?_, fun urls => ?_⟩
      · rw [AreLinks, meetingsOf, othersOf, hextracted]
        exact ⟨fun _ => rfl, fun hne => absurd rfl hne⟩
      · have hlinks : (linksOf c e).value = .error (.markup fault) := by
          rw [linksOf, hfound]
          rfl
        rw [withLinks, Logged.value_bind, linksOf_with_urls, hlinks]
        rfl
  | ok found =>
      obtain ⟨links, hlinks, hare⟩ := value_linksOf hfound hplain
      obtain ⟨first, hfirst⟩ := hare.leadsToMeeting
      refine ⟨links, hare, fun urls => ?_⟩
      rw [withLinks, Logged.value_bind, linksOf_with_urls, hlinks]
      simp only [hfirst]
      rfl

theorem value_processEvents (c : Configuration) (events : List Event) :
    (processEvents c events).value = events.map fun e => (withLinks c e).value.1 := by
  rw [processEvents, Logged.value_bind, Logged.value_mapM, Logged.value_bind, Logged.value_pure,
    List.map_map]
  rfl

/-- Each event gets its links by itself. -/
theorem value_processEvents_append (c : Configuration) (before : List Event) (e : Event)
    (after : List Event) : (processEvents c (before ++ e :: after)).value =
      (processEvents c before).value ++ (withLinks c e).value.1 :: (processEvents c after).value := by
  rw [value_processEvents, value_processEvents, value_processEvents, List.map_append, List.map_cons]

/-- An event gets its links whatever the other events are and whatever links it had, and nothing else of
it changes: the chosen one of the links to meetings first, and then the other links, each once, among
which none leads to a meeting. -/
theorem processEvents_links (c : Configuration) (e : Event)
    (hplain : ∀ t ∈ extracted e, IsPlainAuthority (writtenAuthority t)) :
    ∃ links, (∀ (before after : List Event) (urls : List Text),
        (processEvents c (before ++ { e with urls := urls } :: after)).value =
          (processEvents c before).value ++ { e with urls := links } ::
            (processEvents c after).value) ∧
      (meetingsOf c e = [] → links = (othersOf c e).eraseDups) ∧
      (meetingsOf c e ≠ [] →
        ∃ u, IsChosen c e (meetingsOf c e) u ∧ links = u :: (othersOf c e).eraseDups) ∧
      (∀ t ∈ (othersOf c e).eraseDups, kind? t ≠ .ok (some .meeting)) ∧ links.Nodup := by
  obtain ⟨links, hare, hwith⟩ := value_withLinks (c := c) hplain
  refine ⟨links, fun before after urls => ?_, hare.1, hare.2, fun t ht hmeeting => ?_, hare.nodup⟩
  · rw [value_processEvents, value_processEvents, value_processEvents, List.map_append, List.map_cons,
      hwith]
  · rw [kind?_of_mem_others ht] at hmeeting
    cases hmeeting

/-- Of two links to meetings one comes first, and a repeated link comes after it once. -/
theorem processEvents_links_two_meetings :
    ∃ (c : Configuration) (e : Event), (∀ t ∈ extracted e, IsPlainAuthority (writtenAuthority t)) ∧
      meetingsOf c e =
        ["https://meet.google.com/abc-defg-hij".toList, "https://us.zoom.us/j/1?pwd=x".toList] ∧
      othersOf c e = ["https://docs.org/a".toList, "https://docs.org/a".toList] ∧
      ∃ u, IsChosen c e (meetingsOf c e) u ∧ ∀ before, (processEvents c (before ++ [e])).value =
        (processEvents c before).value ++ [{ e with urls := [u, "https://docs.org/a".toList] }] := by
  have hand {p q : Prop} (hp : p) (hq : p → q) : p ∧ q := ⟨hp, hq hp⟩
  refine ⟨{ zoom := [⟨"ada".toList, [{}]⟩] },
    { title := "Call".toList, calendar := "Work".toList,
      notes := some ("https://docs.org/a https://meet.google.com/abc-defg-hij ".toList ++
        "https://us.zoom.us/j/1?pwd=x https://docs.org/a".toList) }, ?_⟩
  refine hand (by decide +kernel) fun hplain => hand (by decide +kernel) fun hmeetings =>
    hand (by decide +kernel) fun hothers => ?_
  obtain ⟨links, hlinks, -, hsome, -⟩ :=
    processEvents_links { zoom := [⟨"ada".toList, [{}]⟩] } _ hplain
  obtain ⟨u, hu, rfl⟩ := hsome (by rw [hmeetings]; decide)
  refine ⟨u, hu, fun before => ?_⟩
  have hlast := hlinks before [] []
  rw [hothers] at hlast
  exact hlast

end AgendaLinks.Link
