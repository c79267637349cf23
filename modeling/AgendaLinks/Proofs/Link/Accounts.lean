import AgendaLinks.Proofs.Link.Readability

/-!
Links for an account. A link to a meeting has the score that it had before it was changed for an
account: the path and the parameters that the score looks at are kept or stand for the same. The best
one of several links to meetings is therefore the same whatever the accounts are.
-/

namespace AgendaLinks.Link

open Text Uri

/-- None of the parameters that an application gets is a password, whatever the name of the account is. -/
theorem hasPassword_deepQuery (action number account query : Text) :
    hasPassword (deepQuery action number account query) = hasPassword query := by
  rw [hasPassword, readQuery_deepQuery, List.any_append]
  rfl

theorem AsksFor.isZoomJoinPath {path action number : Text} (h : AsksFor path action number) :
    isZoomJoinPath path = true := by
  cases h with
  | join => rfl
  | start => rfl

theorem isZoomHost_of_isMeetHost {host : Text} (h : isMeetHost host = true) :
    isZoomHost host = false := by
  rw [isMeetHost, beq_iff_eq] at h
  rw [h]
  decide

variable {w : Written}

/-- A Google link keeps its host and its path, and its score does not depend on anything else. -/
theorem withGoogleAccount_score (w : Written) (account : Text) :
    ∃ w' : Written, withGoogleAccount w.text account = .ok w'.text ∧
      score w'.text = score w.text ∧ kind? w'.text = kind? w.text := by
  cases hmeet : isMeetHost w.parts.host with
  | false => exact ⟨w, withGoogleAccount_of_other (ofText_text w) hmeet account, rfl, rfl⟩
  | true =>
      obtain ⟨w', haugmented, hhost, hpath⟩ := withGoogleAccount_written w account
      refine ⟨w', haugmented, ?_, ?_⟩
      · rw [score_text, score_text, scoreOf, scoreOf, hhost, hpath, isZoomHost_of_isMeetHost hmeet, hmeet]
        rfl
      · rw [kind?_text, kind?_text, hhost, hpath]

/-- A Zoom link with the number of a meeting is a join link before and after it is changed, with a
password or without as before. -/
theorem withZoomAccount_score (hw : kind? w.text = .ok (some .meeting)) (account : Text) :
    ∃ w' : Written, withZoomAccount w.text account = .ok w'.text ∧
      score w'.text = score w.text ∧ kind? w'.text = kind? w.text := by
  have hparts := ofText_text w
  cases hzoom : isZoomHost w.parts.host with
  | false => exact ⟨w, withZoomAccount_of_no_meeting hparts (Or.inl hzoom) account, rfl, rfl⟩
  | true =>
      cases hmeeting : meetingOfPath? w.parts.path with
      | none => exact ⟨w, withZoomAccount_of_no_meeting hparts (Or.inr hmeeting) account, rfl, rfl⟩
      | some meeting =>
          have hasks := meetingOfPath?_eq_some_iff.1 hmeeting
          obtain ⟨w', haugmented, hhost, hpath, hquery⟩ :=
            withZoomAccount_written_of_meeting hzoom hasks account
          have haction : w'.parts.path = "/join".toList ∨ w'.parts.path = "/start".toList := by
            rw [hpath]
            exact hasks.action_eq.imp (congrArg ('/' :: ·)) (congrArg ('/' :: ·))
          have hjoin : isZoomJoinPath w'.parts.path = true := by
            rcases haction with haction | haction
            · rw [haction]
              decide
            · rw [haction]
              decide
          refine ⟨w', haugmented, ?_, ?_⟩
          · rw [score_text, score_text, scoreOf, scoreOf, hhost, hzoom, hjoin, hasks.isZoomJoinPath,
              hquery, hasPassword_deepQuery]
            rfl
          · rw [kind?_text_of_zoom hw hzoom hhost haction, hw]

/-- Whatever account a link to a meeting is changed for, its score stays. -/
theorem augment_score {c : Configuration} {e : Event} (hw : kind? w.text = .ok (some .meeting))
    {u : Text} (hu : (augment c e w.text).value = .ok u) : score u = score w.text := by
  rcases value_augment_cases c e w with hsame | ⟨account, hgoogle⟩ | ⟨-, account, hchanged⟩
  · rw [hsame] at hu
    cases hu
    rfl
  · obtain ⟨w', haugmented, hscore, -⟩ := withGoogleAccount_score w account
    rw [hgoogle, haugmented] at hu
    cases hu
    exact hscore
  · obtain ⟨w', haugmented, hscore, -⟩ := withZoomAccount_score hw account
    rw [hchanged, haugmented] at hu
    cases hu
    exact hscore

variable {c : Configuration} {e : Event}

theorem mem_meetingsOf {m : Text} (h : m ∈ meetingsOf c e) :
    m ∈ extracted e ∧ kind? m = .ok (some .meeting) := by
  rw [meetingsOf, ofKind, List.mem_filter, decide_eq_true_eq] at h
  exact ⟨(mem_kept.1 h.1).1, h.2⟩

/-- The chosen link is what the best of the links to meetings is changed to, the best one of them before
they are changed. -/
theorem IsChosen.exists_isBest {meetings : List Text} {u : Text} (h : IsChosen c e meetings u)
    (hmeetings : ∀ m ∈ meetings, kind? m = .ok (some .meeting) ∧ ∃ w : Written, w.text = m) :
    ∃ m s, IsBest meetings m s ∧ (augment c e m).value = .ok u := by
  obtain ⟨before, m, after, s, hsplit, haugmented, -, hscore, hall, hbefore⟩ := h
  have hkept : ∀ m ∈ meetings, ∀ u, (augment c e m).value = .ok u → score u = score m := by
    intro m hm u hu
    obtain ⟨hkind, w, rfl⟩ := hmeetings m hm
    exact augment_score hkind hu
  have hmem : m ∈ meetings := by
    rw [hsplit]
    simp
  refine ⟨m, s, ⟨before, after, hsplit, ?_, ?_, ?_⟩, haugmented⟩
  · rw [← hkept m hmem u haugmented, hscore]
  · intro m' hm'
    obtain ⟨u', n, haugmented', hscore', hle⟩ := hall m' hm'
    exact ⟨n, by rw [← hkept m' hm' u' haugmented', hscore'], hle⟩
  · intro m' hm'
    obtain ⟨u', n, haugmented', hscore', hless⟩ := hbefore m' hm'
    have hmem' : m' ∈ meetings := by
      rw [hsplit]
      exact List.mem_append_left _ hm'
    exact ⟨n, by rw [← hkept m' hmem' u' haugmented', hscore'], hless⟩

/-- Two configurations with the same rules for ignoring links choose the same link, each changed for its
own account. -/
theorem AreLinks.same_choice {c' : Configuration} (hignore : c'.ignore = c.ignore)
    (hplain : ∀ t ∈ extracted e, IsPlainAuthority (writtenAuthority t)) {links links' : List Text}
    (h : AreLinks c e links) (h' : AreLinks c' e links') :
    links.length = links'.length ∧ links.tail = links'.tail ∧
      (links.head? = links'.head? ∨ ∃ m ∈ extracted e, ∃ u u',
        links.head? = some u ∧ links'.head? = some u' ∧
        (augment c e m).value = .ok u ∧ (augment c' e m).value = .ok u') := by
  have hkept : kept c' e (extracted e) = kept c e (extracted e) := by
    rw [kept, kept, hignore]
  have hothers : othersOf c' e = othersOf c e := by
    rw [othersOf, othersOf, hkept]
  have hmeetings : meetingsOf c' e = meetingsOf c e := by
    rw [meetingsOf, meetingsOf, hkept]
  rw [AreLinks, hmeetings, hothers] at h'
  by_cases hnone : meetingsOf c e = []
  · rw [h.1 hnone, h'.1 hnone]
    exact ⟨rfl, rfl, Or.inl rfl⟩
  · obtain ⟨u, hu, rfl⟩ := h.2 hnone
    obtain ⟨u', hu', rfl⟩ := h'.2 hnone
    have hwritten : ∀ m ∈ meetingsOf c e,
        kind? m = .ok (some .meeting) ∧ ∃ w : Written, w.text = m := by
      intro m hm
      obtain ⟨hmem, hkind⟩ := mem_meetingsOf hm
      obtain ⟨shown, hfind⟩ := exists_of_mem_extracted hmem
      exact ⟨hkind, exists_written hfind (hplain m hmem)⟩
    obtain ⟨m, s, hbest, haugmented⟩ := hu.exists_isBest hwritten
    obtain ⟨m', s', hbest', haugmented'⟩ := hu'.exists_isBest hwritten
    obtain rfl := hbest.unique hbest'
    exact ⟨rfl, rfl, Or.inr ⟨m, (mem_meetingsOf hbest.mem).1, u, u', rfl, rfl, haugmented,
      haugmented'⟩⟩

/-- What account rules cannot change: how many links an event gets, all of them but the first, and which
of its links the first one is made of. A link to a meeting has the same score and the same kind whatever
account it is changed for. -/
theorem processEvents_accounts (c : Configuration) (google zoom : List Choice) (e : Event)
    (hplain : ∀ t ∈ extracted e, IsPlainAuthority (writtenAuthority t)) :
    (∃ links links', (∀ before after, (processEvents c (before ++ e :: after)).value =
          (processEvents c before).value ++ { e with urls := links } ::
            (processEvents c after).value) ∧
      (∀ before after,
        (processEvents { c with google := google, zoom := zoom } (before ++ e :: after)).value =
          (processEvents { c with google := google, zoom := zoom } before).value ++
            { e with urls := links' } ::
              (processEvents { c with google := google, zoom := zoom } after).value) ∧
      links.length = links'.length ∧ links.tail = links'.tail ∧
      (links.head? = links'.head? ∨ ∃ m ∈ extracted e, ∃ u u',
        links.head? = some u ∧ links'.head? = some u' ∧ (augment c e m).value = .ok u ∧
        (augment { c with google := google, zoom := zoom } e m).value = .ok u')) ∧
    ∀ shown, ∀ m ∈ find shown, IsPlainAuthority (writtenAuthority m) →
      kind? m = .ok (some .meeting) → ∀ account,
        (∃ u n, withGoogleAccount m account = .ok u ∧ score m = .ok n ∧ score u = .ok n ∧
          kind? u = .ok (some .meeting)) ∧
        ∃ u n, withZoomAccount m account = .ok u ∧ score m = .ok n ∧ score u = .ok n ∧
          kind? u = .ok (some .meeting) := by
  refine ⟨?_, fun shown m hm hm' hkind account => ?_⟩
  · obtain ⟨links, hare, hwith⟩ := value_withLinks (c := c) hplain
    obtain ⟨links', hare', hwith'⟩ :=
      value_withLinks (c := { c with google := google, zoom := zoom }) hplain
    have hignore : ({ c with google := google, zoom := zoom } : Configuration).ignore = c.ignore := rfl
    refine ⟨links, links', fun before after => ?_, fun before after => ?_,
      hare.same_choice hignore hplain hare'⟩
    · rw [value_processEvents_append, hwith e.urls]
    · rw [value_processEvents_append, hwith' e.urls]
  · obtain ⟨w, rfl⟩ := exists_written hm hm'
    obtain ⟨u, hu, hscore, hsame⟩ := withGoogleAccount_score w account
    obtain ⟨u', hu', hscore', hsame'⟩ := withZoomAccount_score hkind account
    exact ⟨⟨u.text, _, hu, score_text w, hscore.trans (score_text w), hsame.trans hkind⟩,
      u'.text, _, hu', score_text w, hscore'.trans (score_text w), hsame'.trans hkind⟩

/-- The join link with a password is chosen before the other one, with an account and without, although
the name of the account looks like the parameter of a password. -/
theorem processEvents_accounts_password_in_name :
    ∃ (zoom : List Choice) (e : Event) (changed : Text),
      (∀ t ∈ extracted e, IsPlainAuthority (writtenAuthority t)) ∧
      (processEvents {} [e]).value.map (·.urls) = [["https://us.zoom.us/j/1?pwd=x".toList]] ∧
      (processEvents { zoom := zoom } [e]).value.map (·.urls) = [[changed]] ∧
      (∃ m ∈ extracted e, (augment {} e m).value = .ok "https://us.zoom.us/j/1?pwd=x".toList ∧
        (augment { zoom := zoom } e m).value = .ok changed) ∧
      ∃ u n, withZoomAccount "https://us.zoom.us/j/2".toList "a&pwd=x".toList = .ok u ∧
        score "https://us.zoom.us/j/2".toList = .ok n ∧ score u = .ok n ∧
        kind? u = .ok (some .meeting) := by
  have hand {p q : Prop} (hp : p) (hq : p → q) : p ∧ q := ⟨hp, hq hp⟩
  have hshown : "https://us.zoom.us/j/2".toList ∈ find "https://us.zoom.us/j/2".toList := by
    decide +kernel
  refine ⟨[⟨"a&pwd=x".toList, [{}]⟩],
    { title := "Call".toList, calendar := "Work".toList,
      notes := some "https://us.zoom.us/j/2 https://us.zoom.us/j/1?pwd=x".toList },
    "zoommtg://us.zoom.us/join?action=join&confno=1&uname=a%26pwd%3Dx&pwd=x".toList, ?_⟩
  refine hand (by decide +kernel) fun hplain => hand (by decide +kernel) fun hbefore =>
    hand (by decide +kernel) fun hafter => ?_
  obtain ⟨⟨links, links', hlinks, hlinks', -, -, hhead⟩, haccounts⟩ :=
    processEvents_accounts {} [] [⟨"a&pwd=x".toList, [{}]⟩] _ hplain
  have hfirst : [links] = _ := (congrArg (List.map Event.urls) (hlinks [] [])).symm.trans hbefore
  have hfirst' : [links'] = _ := (congrArg (List.map Event.urls) (hlinks' [] [])).symm.trans hafter
  rw [List.singleton_inj.1 hfirst, List.singleton_inj.1 hfirst'] at hhead
  obtain ⟨m, hm, u, u', hu, hu', haugmented, haugmented'⟩ := hhead.resolve_left (by decide)
  rw [List.head?_cons, Option.some.injEq] at hu hu'
  subst hu hu'
  exact ⟨⟨m, hm, haugmented, haugmented'⟩,
    (haccounts _ _ hshown (by decide +kernel) (by decide +kernel) _).2⟩

end AgendaLinks.Link
