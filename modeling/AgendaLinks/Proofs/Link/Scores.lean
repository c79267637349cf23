import AgendaLinks.Proofs.Link.Hosts

/-!
Scores of links. A link has a score when its parts can be told, which is also when it has a kind, and the
score is positive for the links to meetings and for no others. The highest score is left to links that
join a meeting of one service and bring its password along.
-/

namespace AgendaLinks.Link

open Text Uri

/-- Paths that join or start a meeting: with its number behind them, with a word that ends there, or with
nothing behind them. -/
inductive IsJoinPath : Text → Prop where
  | join (rest : Text) : IsJoinPath ("/j/".toList ++ rest)
  | start (rest : Text) : IsJoinPath ("/s/".toList ++ rest)
  | client {rest : Text} (word : Text) (hword : word ∈ ["join".toList, "start".toList])
      (hends : ∀ c ∈ rest.head?, isWord c = false) : IsJoinPath ("/wc/".toList ++ word ++ rest)
  | whole (word : Text) (hword : word ∈ ["join".toList, "start".toList]) : IsJoinPath ('/' :: word)

theorem any_after?_iff {start path : Text} :
    (after? start path).any (fun rest => !rest.head?.any isWord) = true ↔
      ∃ rest, path = start ++ rest ∧ ∀ c ∈ rest.head?, isWord c = false := by
  simp [Option.any_eq_true, after?_eq_some_iff, Option.any_eq_false]

theorem isSome_after?_iff {start path : Text} :
    (after? start path).isSome = true ↔ ∃ rest, path = start ++ rest := by
  simp [Option.isSome_iff_exists, after?_eq_some_iff]

theorem isZoomJoinPath_iff {path : Text} : isZoomJoinPath path = true ↔ IsJoinPath path := by
  simp only [isZoomJoinPath, Bool.or_eq_true, isSome_after?_iff, any_after?_iff, beq_iff_eq]
  constructor
  · rintro (((((⟨rest, rfl⟩ | ⟨rest, rfl⟩) | ⟨rest, rfl, hends⟩) | ⟨rest, rfl, hends⟩) | rfl) | rfl)
    · exact .join rest
    · exact .start rest
    · exact .client "join".toList (by decide) hends
    · exact .client "start".toList (by decide) hends
    · exact .whole "join".toList (by decide)
    · exact .whole "start".toList (by decide)
  · intro h
    cases h with
    | join rest => simp
    | start rest => simp
    | client word hword hends =>
        rcases List.mem_pair.1 hword with rfl | rfl
        · simpa using hends
        · simpa using hends
    | whole word hword =>
        rcases List.mem_pair.1 hword with rfl | rfl
        · simp
        · simp

theorem hasPassword_iff {query : Text} :
    hasPassword query = true ↔ ∃ value, ("pwd".toList, value) ∈ readQuery query := by
  rw [hasPassword, List.any_eq_true]
  constructor
  · rintro ⟨⟨name, value⟩, hmem, hname⟩
    obtain rfl : name = "pwd".toList := beq_iff_eq.1 hname
    exact ⟨value, hmem⟩
  · rintro ⟨value, hmem⟩
    exact ⟨_, hmem, rfl⟩

variable (u : Uri)

/-- The score of a link to a meeting is one, nine or ten, and that of every other link is zero. -/
theorem scoreOf_cases :
    (IsMeetingHost u.host ∧ scoreOf u ∈ [1, 9, 10]) ∨ (¬IsMeetingHost u.host ∧ scoreOf u = 0) := by
  rw [isMeetingHost_iff, scoreOf]
  split_ifs <;> simp_all

/-- The highest score is that of a link to join a meeting that has its password among the parameters. -/
theorem scoreOf_eq_ten_iff : scoreOf u = 10 ↔
    (IsOf "zoom.us".toList u.host ∨ IsOf "zoom.com".toList u.host) ∧ IsJoinPath u.path ∧
      ∃ value, ("pwd".toList, value) ∈ readQuery u.query := by
  rw [← isZoomHost_iff, ← isZoomJoinPath_iff, ← hasPassword_iff, scoreOf]
  split_ifs <;> simp_all

/-- A link has a score exactly if it has a kind, and that is if its parts can be told. The score is at
least one exactly for links to meetings; it is zero, one, nine or ten. -/
theorem score_agrees_with_kind (t : Text) :
    (∃ fault, Uri.ofText t = .error fault ∧ kind? t = .error fault ∧ score t = .error fault) ∨
      ∃ u kind n, Uri.ofText t = .ok u ∧ kind? t = .ok kind ∧ score t = .ok n ∧
        (1 ≤ n ↔ kind = some .meeting) ∧ (n = 0 ∨ n = 1 ∨ n = 9 ∨ n = 10) ∧
        (n = 10 ↔ (IsOf "zoom.us".toList u.host ∨ IsOf "zoom.com".toList u.host) ∧
          IsJoinPath u.path ∧ ∃ value, ("pwd".toList, value) ∈ readQuery u.query) := by
  rw [kind?, score]
  cases hparts : Uri.ofText t with
  | error fault => exact Or.inl ⟨fault, rfl, rfl, rfl⟩
  | ok u =>
      refine Or.inr ⟨u, _, _, rfl, rfl, rfl, ?_, ?_, scoreOf_eq_ten_iff u⟩
      · rw [kindOf_eq_meeting_iff]
        rcases scoreOf_cases u with ⟨hmeeting, hscore⟩ | ⟨hother, hscore⟩
        · simp only [List.mem_cons, List.not_mem_nil, or_false] at hscore
          exact iff_of_true (by omega) hmeeting
        · exact iff_of_false (by omega) hother
      · rcases scoreOf_cases u with ⟨-, hscore⟩ | ⟨-, hscore⟩
        · exact Or.inr (by simpa using hscore)
        · exact Or.inl hscore

end AgendaLinks.Link
