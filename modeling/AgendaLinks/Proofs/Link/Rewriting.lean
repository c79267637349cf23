import AgendaLinks.Proofs.Link.Augmentation
import AgendaLinks.Proofs.Link.Extraction

/-!
What a link says when it has been changed for an account. The change is made in the text of the link; read
again, the text has the parts that it had before, or those of a link for the application, and the account
stands once among the parameters.
-/

namespace AgendaLinks.Link

open Text Uri

/-- A Google link gets one parameter behind its own ones, the account, and nothing else about it changes.
Other links stay as they are. -/
theorem withGoogleAccount_adds {t : Text} {u : Uri} (h : IsLink t) (hu : Uri.ofText t = .ok u)
    (account : Text) :
    (u.host = "meet.google.com".toList →
      ∃ t' query, withGoogleAccount t account = .ok t' ∧
        Uri.ofText t' = .ok { u with query := query } ∧
        readQuery query = readQuery u.query ++ [("authuser".toList, account)]) ∧
    (u.host ≠ "meet.google.com".toList → withGoogleAccount t account = .ok t) := by
  constructor
  · intro hhost
    obtain ⟨v, s, rfl, -⟩ := exists_spelling h
    obtain rfl := s.eq_of_ofText_text hu
    have hmeet : isMeetHost u.host = true := beq_iff_eq.2 hhost
    refine ⟨_, _, withGoogleAccount_text s hu hmeet account, ?_, readQuery_accountQuery u.query account⟩
    exact Spelling.ofText_text _ hu rfl
  · intro hhost
    exact withGoogleAccount_of_other hu (beq_eq_false_iff_ne.2 hhost) account

/-- A link with a user, a port, a question mark that nothing follows, and marks in the fragment, for an
account with marks in its name. -/
theorem withGoogleAccount_adds_fragment :
    ∃ t', withGoogleAccount "https://jürgen@Meet.Google.com:443?#a?b#c".toList "x&y=ü #1".toList =
        .ok t' ∧
      ∃ query, Uri.ofText t' = .ok
          { scheme := "https".toList, authority := "jürgen@Meet.Google.com:443".toList, query,
            fragment := "a?b#c".toList } ∧
        readQuery query = [("authuser".toList, "x&y=ü #1".toList)] := by
  have hu : Uri.ofText "https://jürgen@Meet.Google.com:443?#a?b#c".toList = .ok
      { scheme := "https".toList, authority := "jürgen@Meet.Google.com:443".toList,
        fragment := "a?b#c".toList } := by
    decide +kernel
  obtain ⟨t', query, haugmented, hparts, hquery⟩ :=
    (withGoogleAccount_adds (by decide +kernel) hu "x&y=ü #1".toList).1 (by decide +kernel)
  exact ⟨t', haugmented, query, hparts, hquery⟩

theorem meetingOfPath?_of_no_number {path : Text}
    (h : ¬∃ action number, AsksFor path action number) : meetingOfPath? path = none := by
  cases hmeeting : meetingOfPath? path with
  | none => rfl
  | some meeting => exact absurd ⟨_, _, meetingOfPath?_eq_some_iff.1 hmeeting⟩ h

/-- A link that the application opens has no number in its path. -/
theorem meetingOfPath?_deepLink {path action number : Text} (h : AsksFor path action number)
    (u : Uri) (query : Text) : meetingOfPath? (deepLink u action query).path = none := by
  show meetingOfPath? ('/' :: action) = none
  rcases h.action_eq with rfl | rfl <;> decide

/-- A Zoom link with the number of a meeting becomes one that the application opens: the host alone is its
authority, its path says what is asked for, and its parameters are this, the number and the account, and
then those of the link. Other links stay as they are, and what has been changed does not change again. -/
theorem withZoomAccount_carries {t : Text} (h : IsPlainAuthority (partsOf t).authority)
    (account : Text) :
    ∃ u t', Uri.ofText t = .ok u ∧ withZoomAccount t account = .ok t' ∧
      (∀ action number, isZoomHost u.host = true → AsksFor u.path action number →
        ∃ query, Uri.ofText t' = .ok
            { scheme := "zoommtg".toList, authority := u.host, path := '/' :: action, query := query,
              fragment := [] } ∧
          readQuery query =
            [("action".toList, action), ("confno".toList, number), ("uname".toList, account)] ++
              readQuery u.query) ∧
      (¬(isZoomHost u.host = true ∧ ∃ action number, AsksFor u.path action number) → t' = t) ∧
      ∀ account', withZoomAccount t' account' = .ok t' := by
  have hu := ofText_of_plain h
  by_cases hzoom : isZoomHost (partsOf t).host = true ∧
      ∃ action number, AsksFor (partsOf t).path action number
  · obtain ⟨hhost, action, number, hasks⟩ := hzoom
    obtain ⟨s, hs⟩ := withZoomAccount_of_meeting hu h hhost hasks account
    have hdeep := s.ofText_text_of_plain (isPlainAuthority_host h)
    refine ⟨partsOf t, s.text, hu, hs, ?_, fun hnone => absurd ⟨hhost, _, _, hasks⟩ hnone,
      withZoomAccount_of_no_meeting hdeep (Or.inr (meetingOfPath?_deepLink hasks _ _))⟩
    intro action' number' _ hasks'
    have hsame := (meetingOfPath?_eq_some_iff.2 hasks').symm.trans
      (meetingOfPath?_eq_some_iff.2 hasks)
    cases hsame
    exact ⟨_, hdeep, readQuery_deepQuery _ _ _ _⟩
  · have hnone : isZoomHost (partsOf t).host = false ∨ meetingOfPath? (partsOf t).path = none := by
      rw [not_and_or, Bool.not_eq_true] at hzoom
      exact hzoom.imp_right meetingOfPath?_of_no_number
    refine ⟨partsOf t, t, hu, withZoomAccount_of_no_meeting hu hnone account, ?_, fun _ => rfl,
      withZoomAccount_of_no_meeting hu hnone⟩
    intro action number hhost hasks
    exact absurd ⟨hhost, _, _, hasks⟩ hzoom

/-- A link with a user, a port, characters behind the number, parameters without names and a fragment, for
an account with marks in its name. -/
theorem withZoomAccount_carries_parameters :
    ∃ t' query, withZoomAccount "https://me:x@US02.zoom.us:443/s/1234a/5?&pwd=a%26b&&=#x".toList
        "ü&pwd=y+z".toList = .ok t' ∧
      Uri.ofText t' = .ok
        { scheme := "zoommtg".toList, authority := "us02.zoom.us".toList, path := "/start".toList,
          query := query, fragment := [] } ∧
      readQuery query = [("action".toList, "start".toList), ("confno".toList, "1234".toList),
        ("uname".toList, "ü&pwd=y+z".toList), ("pwd".toList, "a&b".toList), ([], [])] ∧
      ∀ account', withZoomAccount t' account' = .ok t' := by
  have hplain : IsPlainAuthority
      (partsOf "https://me:x@US02.zoom.us:443/s/1234a/5?&pwd=a%26b&&=#x".toList).authority := by
    decide
  have hasks : AsksFor
      (partsOf "https://me:x@US02.zoom.us:443/s/1234a/5?&pwd=a%26b&&=#x".toList).path
      "start".toList "1234".toList := meetingOfPath?_eq_some_iff.1 (by decide +kernel)
  obtain ⟨u, t', hu, haugmented, hdeep, -, hagain⟩ :=
    withZoomAccount_carries hplain "ü&pwd=y+z".toList
  cases (ofText_of_plain hplain).symm.trans hu
  obtain ⟨query, hparts, hquery⟩ := hdeep _ _ (by decide +kernel) hasks
  refine ⟨t', query, haugmented, hparts, hquery.trans ?_, hagain⟩
  decide +kernel

end AgendaLinks.Link
