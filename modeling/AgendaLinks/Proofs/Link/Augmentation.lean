import AgendaLinks.Link.Account
import AgendaLinks.Proofs.Uri.Parts
import AgendaLinks.Proofs.Uri.Query

/-!
Links that are changed for an account. A Google link keeps its authority and its path, and a Zoom link
its host, so a link to a meeting still leads to one when it is read again.
-/

namespace AgendaLinks.Link

open Text Uri

theorem kind?_text (w : Written) : kind? w.text = .ok (kindOf w.parts.host w.parts.path) := by
  rw [kind?, ofText_text]
  rfl

theorem score_text (w : Written) : score w.text = .ok (scoreOf w.parts) := by
  rw [score, ofText_text]
  rfl

variable {t : Text} {u : Uri}

/-- The parameters of a link and one more, for an account. -/
def accountQuery (query account : Text) : Text :=
  (if query = [] then [] else query ++ ['&']) ++ writeQuery [("authuser".toList, account)]

theorem readQuery_accountQuery (query account : Text) :
    readQuery (accountQuery query account) = readQuery query ++ [("authuser".toList, account)] := by
  rw [accountQuery]
  split_ifs with hquery
  · rw [hquery, List.nil_append, readQuery_writeQuery]
    rfl
  · rw [List.append_assoc, List.singleton_append, readQuery_append, readQuery_writeQuery]

theorem clean_of_mem_accountQuery (s : Spelling u) (account : Text) :
    ∀ c ∈ accountQuery u.query account, c ≠ '#' ∧ Uri.isPassedOver c = false := by
  intro c hc
  rcases List.mem_append.1 hc with hc | hc
  · split_ifs at hc
    · cases hc
    · rcases List.mem_append.1 hc with hc | hc
      · exact ⟨fun heq => s.query_open (heq ▸ hc), s.clean c (by simp [hc])⟩
      · rw [List.mem_singleton.1 hc]
        decide
  · have hchar := isQueryChar_of_mem_writeQuery hc
    exact ⟨ne_number_of_isQueryChar hchar, isPassedOver_of_isQueryChar hchar⟩

/-- The separator that is put before the parameter makes one query of it and the parameters before it. -/
theorem append_separator {start : Text} (h : '?' ∉ start) (query : Option Text) (parameter : Text) :
    start ++ marked '?' query ++ (if query.getD [] ≠ [] then ['&']
        else if (start ++ marked '?' query).getLast? = some '?' then [] else ['?']) ++ parameter =
      start ++ '?' :: ((if query.getD [] = [] then [] else query.getD [] ++ ['&']) ++ parameter) := by
  rcases query with _ | _ | ⟨c, query⟩
  · have hlast : start.getLast? ≠ some '?' := fun hlast => h (List.mem_of_getLast? hlast)
    simp [marked, hlast]
  · simp [marked]
  · simp [marked]

/-- A Google link gets the account behind its parameters and keeps its other parts. An empty fragment is
lost. -/
theorem withGoogleAccount_text (s : Spelling u) (hs : Uri.ofText s.text = .ok u)
    (h : isMeetHost u.host = true) (account : Text) :
    withGoogleAccount s.text account =
      .ok (s.withQuery (clean_of_mem_accountQuery s account)).text := by
  have hquery := append_separator (s.not_mem_front (Or.inl rfl)) s.query
    (writeQuery [("authuser".toList, account)])
  rw [s.query_eq] at hquery
  have hfragment := s.fragment_eq
  rw [withGoogleAccount, hs, Spelling.text_eq_front (s.withQuery _)]
  simp only [bind, Except.bind, h, Bool.not_true, Bool.false_eq_true, if_false, s.cut_text, hquery]
  cases hmark : s.fragment with
  | none =>
      rw [hmark] at hfragment
      simp [Spelling.withQuery, Spelling.front, accountQuery, ← hfragment, marked, pure, Except.pure]
  | some fragment =>
      rw [hmark] at hfragment
      cases fragment with
      | nil =>
          simp [Spelling.withQuery, Spelling.front, accountQuery, ← hfragment, marked, pure, Except.pure]
      | cons c fragment =>
          simp [Spelling.withQuery, Spelling.front, accountQuery, ← hfragment, marked, pure, Except.pure]

theorem withGoogleAccount_of_other (hu : Uri.ofText t = .ok u) (h : isMeetHost u.host = false)
    (account : Text) : withGoogleAccount t account = .ok t := by
  rw [withGoogleAccount, hu]
  simp [bind, Except.bind, pure, Except.pure, h]

theorem withGoogleAccount_written (w : Written) (account : Text) :
    ∃ w' : Written, withGoogleAccount w.text account = .ok w'.text ∧
      w'.parts.host = w.parts.host ∧ w'.parts.path = w.parts.path := by
  have hw := ofText_text w
  cases hmeet : isMeetHost w.parts.host with
  | false => exact ⟨w, withGoogleAccount_of_other hw hmeet account, rfl, rfl⟩
  | true =>
      rw [← w.text_spelling] at hw ⊢
      have haugmented := withGoogleAccount_text w.spelling hw hmeet account
      obtain ⟨w', htext, hparts⟩ :=
        (w.spelling.withQuery (clean_of_mem_accountQuery w.spelling account)).exists_written w.plain
      rw [← htext] at haugmented
      exact ⟨w', haugmented, by rw [hparts]; rfl, by rw [hparts]⟩

/-- The digits that a text begins with, all up to the first character that is none. -/
def IsNumberOf (number t : Text) : Prop :=
  number ≠ [] ∧ (∀ c ∈ number, isDecimal c = true) ∧
    ∃ rest, t = number ++ rest ∧ ∀ c ∈ rest.head?, isDecimal c = false

/-- What a path asks for, and the number of the meeting. -/
inductive AsksFor : Text → Text → Text → Prop where
  | join {number t : Text} (h : IsNumberOf number t) : AsksFor ("/j/".toList ++ t) "join".toList number
  | start {number t : Text} (h : IsNumberOf number t) :
      AsksFor ("/s/".toList ++ t) "start".toList number

theorem isNumberOf_iff {number : Text} :
    IsNumberOf number t ↔ t.takeWhile isDecimal = number ∧ number ≠ [] := by
  constructor
  · rintro ⟨hne, hdigits, rest, rfl, hrest⟩
    have hspan := span_append hdigits hrest
    rw [List.span_eq_takeWhile_dropWhile, Prod.mk.injEq] at hspan
    exact ⟨hspan.1, hne⟩
  · rintro ⟨rfl, hne⟩
    refine ⟨hne, fun c hc => List.mem_takeWhile_imp hc, t.dropWhile isDecimal,
      List.takeWhile_append_dropWhile.symm, fun c hc => ?_⟩
    have hhead := List.head?_dropWhile_not isDecimal t
    rw [Option.mem_def.1 hc] at hhead
    simpa using hhead

theorem numberAfter_eq_some_iff {start path asked action number : Text} :
    ((after? start path).bind fun rest =>
      if (rest.takeWhile isDecimal).isEmpty then none
      else some (asked, rest.takeWhile isDecimal)) = some (action, number) ↔
    action = asked ∧ ∃ t, path = start ++ t ∧ IsNumberOf number t := by
  simp only [Option.bind_eq_some_iff, after?_eq_some_iff, isNumberOf_iff, List.isEmpty_iff,
    Option.ite_none_left_eq_some, Option.some.injEq, Prod.mk.injEq]
  constructor
  · rintro ⟨t, hpath, hne, haction, hnumber⟩
    exact ⟨haction.symm, t, hpath, hnumber, hnumber ▸ hne⟩
  · rintro ⟨rfl, t, hpath, hnumber, hne⟩
    exact ⟨t, hpath, hnumber ▸ hne, rfl, hnumber⟩

theorem meetingOfPath?_eq_some_iff {path action number : Text} :
    meetingOfPath? path = some (action, number) ↔ AsksFor path action number := by
  rw [meetingOfPath?, Option.or_eq_some_iff]
  simp only [numberAfter_eq_some_iff]
  constructor
  · rintro (⟨rfl, t, rfl, hnumber⟩ | ⟨-, rfl, t, rfl, hnumber⟩)
    · exact .join hnumber
    · exact .start hnumber
  · intro h
    cases h with
    | join hnumber => exact Or.inl ⟨rfl, _, rfl, hnumber⟩
    | start hnumber => exact Or.inr ⟨rfl, rfl, _, rfl, hnumber⟩

theorem AsksFor.action_eq {path action number : Text} (h : AsksFor path action number) :
    action = "join".toList ∨ action = "start".toList := by
  cases h with
  | join => exact Or.inl rfl
  | start => exact Or.inr rfl

/-- The parameters of a link that an application opens: its own ones, and those of the former link. -/
def deepQuery (action number account query : Text) : Text :=
  writeQuery [("action".toList, action), ("confno".toList, number), ("uname".toList, account)] ++
    (if query = [] then [] else '&' :: query)

theorem readQuery_deepQuery (action number account query : Text) :
    readQuery (deepQuery action number account query) =
      [("action".toList, action), ("confno".toList, number), ("uname".toList, account)] ++
        readQuery query := by
  rw [deepQuery]
  split_ifs with hquery
  · rw [List.append_nil, readQuery_writeQuery, hquery]
    rfl
  · rw [readQuery_append, readQuery_writeQuery]

theorem clean_of_mem_deepQuery (action number account : Text) {query : Text}
    (h : ∀ c ∈ query, c ≠ '#' ∧ Uri.isPassedOver c = false) :
    ∀ c ∈ deepQuery action number account query, c ≠ '#' ∧ Uri.isPassedOver c = false := by
  intro c hc
  rcases List.mem_append.1 hc with hc | hc
  · have hchar := isQueryChar_of_mem_writeQuery hc
    exact ⟨ne_number_of_isQueryChar hchar, isPassedOver_of_isQueryChar hchar⟩
  · split_ifs at hc
    · cases hc
    · rcases List.mem_cons.1 hc with rfl | hc
      · decide
      · exact h c hc

/-- A host may stand in a link as its authority. -/
theorem clean_of_mem_host (hplain : IsPlainAuthority u.authority)
    (hchars : ∀ c ∈ u.authority, endsAuthority c = false ∧ Uri.isPassedOver c = false) {c : Char}
    (hc : c ∈ u.host) : endsAuthority c = false ∧ Uri.isPassedOver c = false := by
  rcases mem_host_of_plain hplain hc with ⟨hmem, -⟩ | ⟨hlow, hhigh⟩
  · exact hchars c hmem
  · have hletter : decide (97 ≤ c.toNat ∧ c.toNat ≤ 122) = true := decide_eq_true ⟨hlow, hhigh⟩
    exact ⟨endsAuthority_eq_false (p := fun c => 97 ≤ c.toNat ∧ c.toNat ≤ 122) (by decide) hletter,
      isPassedOver_eq_false (p := fun c => 97 ≤ c.toNat ∧ c.toNat ≤ 122) (by decide) hletter⟩

/-- The parts of a link that the application opens: the host as its authority, what is asked for as its
path, and the parameters. -/
def deepLink (u : Uri) (action query : Text) : Uri :=
  { scheme := "zoommtg".toList, authority := u.host, path := '/' :: action, query }

theorem host_deepLink (hplain : IsPlainAuthority u.authority) (action query : Text) :
    (deepLink u action query).host = u.host := host_host hplain rfl

theorem exists_spelling_deepLink (hplain : IsPlainAuthority u.authority)
    (hchars : ∀ c ∈ u.authority, endsAuthority c = false ∧ Uri.isPassedOver c = false)
    {action query : Text} (haction : action = "join".toList ∨ action = "start".toList)
    (hquery : ∀ c ∈ query, c ≠ '#' ∧ Uri.isPassedOver c = false) :
    ∃ s : Spelling (deepLink u action query),
      s.text = "zoommtg://".toList ++ u.host ++ '/' :: action ++ '?' :: query := by
  have hpath : ∀ c ∈ '/' :: action, (c ≠ '?' ∧ c ≠ '#') ∧ Uri.isPassedOver c = false := by
    rcases haction with rfl | rfl <;> decide
  have hscheme : "zoommtg".toList ∈ schemes := by decide
  refine ⟨⟨some query, none, rfl, rfl, hscheme, fun c hc => (clean_of_mem_host hplain hchars hc).1,
    ?_, fun c hc => (hpath c hc).1, fun hmem => (hquery _ hmem).1 rfl, ?_⟩, ?_⟩
  · rintro c ⟨⟩
    rfl
  · intro c hc
    rw [List.mem_append, List.mem_append, List.mem_append] at hc
    rcases hc with ((hc | hc) | hc) | hc
    · exact (clean_of_mem_host hplain hchars hc).2
    · exact (hpath c hc).2
    · exact (hquery c hc).2
    · cases hc
  · have hstart : "zoommtg://".toList = "zoommtg".toList ++ [':', '/', '/'] := by decide
    rw [hstart]
    show "zoommtg".toList ++ ':' :: '/' :: '/' ::
      (u.host ++ ('/' :: action ++ marked '?' (some query) ++ marked '#' none)) = _
    simp only [marked, Option.elim_some, Option.elim_none, List.append_assoc, List.cons_append,
      List.nil_append, List.append_nil]

/-- A Zoom link with the number of a meeting becomes one that the application opens. -/
theorem withZoomAccount_of_meeting (hu : Uri.ofText t = .ok u) (hplain : IsPlainAuthority u.authority)
    {action number : Text} (hzoom : isZoomHost u.host = true)
    (hmeeting : AsksFor u.path action number) (account : Text) :
    ∃ s : Spelling (deepLink u action (deepQuery action number account u.query)),
      withZoomAccount t account = .ok s.text := by
  obtain ⟨hauthority, hquery⟩ := chars_partsOf t
  rw [(ofText_eq_ok_iff.1 hu).2.2] at hauthority hquery
  obtain ⟨s, hs⟩ := exists_spelling_deepLink hplain hauthority hmeeting.action_eq
    (clean_of_mem_deepQuery action number account hquery)
  refine ⟨s, ?_⟩
  rw [withZoomAccount, hu, hs]
  simp [bind, Except.bind, pure, Except.pure, hzoom, meetingOfPath?_eq_some_iff.2 hmeeting, deepQuery]

theorem withZoomAccount_of_no_meeting (hu : Uri.ofText t = .ok u)
    (h : isZoomHost u.host = false ∨ meetingOfPath? u.path = none) (account : Text) :
    withZoomAccount t account = .ok t := by
  rw [withZoomAccount, hu]
  cases hzoom : isZoomHost u.host with
  | false => simp [bind, Except.bind, pure, Except.pure, hzoom]
  | true =>
      have hnone := h.resolve_left (by simp [hzoom])
      simp [bind, Except.bind, pure, Except.pure, hzoom, hnone]

theorem withZoomAccount_written_of_meeting {w : Written} {action number : Text}
    (hzoom : isZoomHost w.parts.host = true) (hmeeting : AsksFor w.parts.path action number)
    (account : Text) :
    ∃ w' : Written, withZoomAccount w.text account = .ok w'.text ∧
      w'.parts.host = w.parts.host ∧ w'.parts.path = '/' :: action ∧
      w'.parts.query = deepQuery action number account w.parts.query := by
  have hplain : IsPlainAuthority w.parts.authority := w.plain
  obtain ⟨s, hs⟩ := withZoomAccount_of_meeting (ofText_text w) hplain hzoom hmeeting account
  obtain ⟨w', htext, hparts⟩ := s.exists_written (isPlainAuthority_host hplain)
  rw [← htext] at hs
  refine ⟨w', hs, ?_⟩
  rw [hparts]
  exact ⟨host_deepLink hplain _ _, rfl, rfl⟩

theorem withZoomAccount_written (w : Written) (account : Text) :
    ∃ w' : Written, withZoomAccount w.text account = .ok w'.text ∧
      w'.parts.host = w.parts.host ∧
      (w' = w ∨ w'.parts.path = "/join".toList ∨ w'.parts.path = "/start".toList) := by
  have hw := ofText_text w
  cases hzoom : isZoomHost w.parts.host with
  | false => exact ⟨w, withZoomAccount_of_no_meeting hw (Or.inl hzoom) account, rfl, Or.inl rfl⟩
  | true =>
      cases hmeeting : meetingOfPath? w.parts.path with
      | none => exact ⟨w, withZoomAccount_of_no_meeting hw (Or.inr hmeeting) account, rfl, Or.inl rfl⟩
      | some meeting =>
          have hasks := meetingOfPath?_eq_some_iff.1 hmeeting
          obtain ⟨w', haugmented, hhost, hpath, -⟩ :=
            withZoomAccount_written_of_meeting hzoom hasks account
          refine ⟨w', haugmented, hhost, Or.inr ?_⟩
          rw [hpath]
          exact hasks.action_eq.imp (congrArg ('/' :: ·)) (congrArg ('/' :: ·))

theorem kindOf_eq_meeting {host path : Text} : kindOf host path = some .meeting ↔
    ¬(isSlackHost host = true ∧ startsWith path "/team/".toList = true) ∧
      isDroppedHost host = false ∧
      (isZoomHost host = true ∨ isMeetHost host = true ∨ isWherebyHost host = true) := by
  rw [kindOf]
  split_ifs with hteam hdropped hmeeting
  · rw [Bool.and_eq_true] at hteam
    exact iff_of_false nofun fun h => h.1 hteam
  · exact iff_of_false nofun fun h => absurd hdropped (by rw [h.2.1]; decide)
  · rw [Bool.and_eq_true] at hteam
    rw [Bool.or_eq_true, Bool.or_eq_true, or_assoc] at hmeeting
    exact iff_of_true rfl ⟨hteam, Bool.eq_false_iff.2 hdropped, hmeeting⟩
  · rw [Bool.or_eq_true, Bool.or_eq_true, or_assoc] at hmeeting
    exact iff_of_false nofun fun h => hmeeting h.2.2

/-- A Zoom host whose link asks to join or to start keeps leading to a meeting. -/
theorem kind?_text_of_zoom {w w' : Written} (hw : kind? w.text = .ok (some .meeting))
    (hzoom : isZoomHost w.parts.host = true) (hhost : w'.parts.host = w.parts.host)
    (hpath : w'.parts.path = "/join".toList ∨ w'.parts.path = "/start".toList) :
    kind? w'.text = .ok (some .meeting) := by
  rw [kind?_text, Except.ok.injEq] at hw
  obtain ⟨-, hdropped, -⟩ := kindOf_eq_meeting.1 hw
  have hteam : startsWith w'.parts.path "/team/".toList = false := by
    rcases hpath with hpath | hpath
    · rw [hpath]
      decide
    · rw [hpath]
      decide
  rw [kind?_text, hhost, kindOf_eq_meeting.2 ⟨fun h => ?_, hdropped, Or.inl hzoom⟩]
  rw [hteam] at h
  exact absurd h.2 (by decide)

/-- A link stays as it is, or it is changed for an account of the service that its host belongs to. -/
theorem value_augment_cases (c : Configuration) (e : Event) (w : Written) :
    (augment c e w.text).value = .ok w.text ∨
      (∃ account, (augment c e w.text).value = withGoogleAccount w.text account) ∨
      isZoomHost w.parts.host = true ∧
        ∃ account, (augment c e w.text).value = withZoomAccount w.text account := by
  rw [augment, ofText_text]
  dsimp only
  split_ifs with hmeet hzoom
  · rcases c.account? .google e (some w.text) with _ | _ | ⟨a, account⟩
    · exact Or.inl rfl
    · exact Or.inl rfl
    · exact Or.inr (Or.inl ⟨a :: account, rfl⟩)
  · rcases c.account? .zoom e (some w.text) with _ | _ | ⟨a, account⟩
    · exact Or.inl rfl
    · exact Or.inl rfl
    · refine Or.inr (Or.inr ⟨hzoom, a :: account, ?_⟩)
      -- the two branches write different log lines and the same link
      dsimp only
      split_ifs
      · rfl
      · rfl
  · exact Or.inl rfl

/-- A written link to a meeting is changed to a written link to a meeting. -/
theorem augment_text (c : Configuration) (e : Event) {w : Written}
    (hw : kind? w.text = .ok (some .meeting)) :
    ∃ w' : Written, (augment c e w.text).value = .ok w'.text ∧
      kind? w'.text = .ok (some .meeting) := by
  rcases value_augment_cases c e w with hsame | ⟨account, hgoogle⟩ | ⟨hzoom, account, hchanged⟩
  · exact ⟨w, hsame, hw⟩
  · obtain ⟨w', haugmented, hhost, hpath⟩ := withGoogleAccount_written w account
    refine ⟨w', hgoogle.trans haugmented, ?_⟩
    rw [kind?_text, hhost, hpath, ← kind?_text, hw]
  · obtain ⟨w', haugmented, hhost, hpath⟩ := withZoomAccount_written w account
    refine ⟨w', hchanged.trans haugmented, ?_⟩
    rcases hpath with rfl | hpath
    · exact hw
    · exact kind?_text_of_zoom hw hzoom hhost hpath

end AgendaLinks.Link
