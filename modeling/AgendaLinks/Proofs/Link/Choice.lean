import AgendaLinks.Link.Choice
import AgendaLinks.Proofs.Fallible
import Mathlib.Data.List.Basic

/-!
The choice of a link to a meeting, and links without repeats. Going through the links the best one of
those before is kept, so in the end the best one of all is.
-/

namespace AgendaLinks.Link

/-- A link of some links that has their highest score, which no link before it has. -/
def IsBest (links : List Text) (t : Text) (s : Nat) : Prop :=
  ∃ before after, links = before ++ t :: after ∧ score t = .ok s ∧
    (∀ u ∈ links, ∃ n, score u = .ok n ∧ n ≤ s) ∧ ∀ u ∈ before, ∃ n, score u = .ok n ∧ n < s

/-- The best one of the links that were gone through; none if there were none. -/
def Keeps (links : List Text) : Option (Text × Nat) → Prop
  | none => links = []
  | some (t, s) => IsBest links t s

theorem keeps_better {links : List Text} {best : Option (Text × Nat)} (h : Keeps links best)
    {u : Text} {n : Nat} (hu : score u = .ok n) : Keeps (links ++ [u]) (better best u n) := by
  cases best with
  | none =>
      rw [Keeps] at h
      subst h
      refine ⟨[], [], rfl, hu, ?_, fun v hv => by cases hv⟩
      exact List.forall_mem_singleton.2 ⟨n, hu, Nat.le_refl n⟩
  | some found =>
      obtain ⟨t, s⟩ := found
      obtain ⟨before, after, rfl, ht, hall, hbefore⟩ := h
      rw [better]
      -- a link with the same score does not take the place of the earlier one
      split_ifs with hless
      · refine ⟨_, [], rfl, hu, ?_, fun v hv => ?_⟩
        · intro v hv
          rcases List.mem_append.1 hv with hv | hv
          · obtain ⟨m, hm, hle⟩ := hall v hv
            exact ⟨m, hm, by omega⟩
          · rw [List.mem_singleton.1 hv]
            exact ⟨n, hu, Nat.le_refl n⟩
        · obtain ⟨m, hm, hle⟩ := hall v hv
          exact ⟨m, hm, by omega⟩
      · refine ⟨before, after ++ [u], by simp, ht, ?_, hbefore⟩
        intro v hv
        rcases List.mem_append.1 hv with hv | hv
        · exact hall v hv
        · rw [List.mem_singleton.1 hv]
          exact ⟨n, hu, by omega⟩

theorem keeps_bestFrom {before : List Text} {best : Option (Text × Nat)} (h : Keeps before best)
    {links : List Text} (hscores : ∀ t ∈ links, ∃ n, score t = .ok n) :
    ∃ best', bestFrom best links = .ok best' ∧ Keeps (before ++ links) best' := by
  induction links generalizing before best with
  | nil =>
      rw [List.append_nil]
      exact ⟨best, rfl, h⟩
  | cons t links ih =>
      obtain ⟨n, hn⟩ := hscores t List.mem_cons_self
      obtain ⟨best', hbest, hkeeps⟩ := ih (keeps_better h hn)
        fun u hu => hscores u (List.mem_cons_of_mem _ hu)
      rw [List.append_assoc, List.singleton_append] at hkeeps
      refine ⟨best', ?_, hkeeps⟩
      rw [bestFrom, hn]
      exact hbest

/-- If all links have scores, there is a best one unless there is no link. -/
theorem best?_spec {links : List Text} (hscores : ∀ t ∈ links, ∃ n, score t = .ok n) :
    (links = [] ∧ best? links = .ok none) ∨
      ∃ t s, best? links = .ok (some t) ∧ IsBest links t s := by
  have hnone : Keeps [] none := rfl
  obtain ⟨best, hbest, hkeeps⟩ := keeps_bestFrom hnone hscores
  rw [best?, hbest]
  cases best with
  | none => exact Or.inl ⟨hkeeps, rfl⟩
  | some found => exact Or.inr ⟨found.1, found.2, rfl, hkeeps⟩

/-- Links of which a best one is told have scores. -/
theorem scores_of_bestFrom {links : List Text} {best best' : Option (Text × Nat)}
    (h : bestFrom best links = .ok best') : ∀ t ∈ links, ∃ n, score t = .ok n := by
  induction links generalizing best with
  | nil => exact fun t ht => absurd ht List.not_mem_nil
  | cons u links ih =>
      rw [bestFrom] at h
      cases hscore : score u with
      | error fault =>
          rw [hscore] at h
          cases h
      | ok n =>
          rw [hscore] at h
          exact List.forall_mem_cons.2 ⟨⟨n, hscore⟩, ih h⟩

theorem isBest_of_best? {links : List Text} {t : Text} (h : best? links = .ok (some t)) :
    ∃ s, IsBest links t s := by
  obtain ⟨best, hbest, -⟩ := exists_of_map_eq_ok h
  rcases best?_spec (scores_of_bestFrom hbest) with ⟨-, hnone⟩ | ⟨u, s, hsome, hisBest⟩
  · rw [h] at hnone
    cases hnone
  · rw [h] at hsome
    cases hsome
    exact ⟨s, hisBest⟩

theorem IsBest.mem {links : List Text} {t : Text} {s : Nat} (h : IsBest links t s) : t ∈ links := by
  obtain ⟨before, after, rfl, -⟩ := h
  exact List.mem_append_right _ List.mem_cons_self

theorem IsBest.le {links : List Text} {t u : Text} {s n : Nat} (h : IsBest links t s)
    (hu : IsBest links u n) : n ≤ s := by
  obtain ⟨-, -, -, -, hall, -⟩ := h
  obtain ⟨m, hm, hle⟩ := hall u hu.mem
  obtain ⟨-, -, -, hscore, -⟩ := hu
  rw [hscore, Except.ok.injEq] at hm
  omega

/-- Some links have one best link, since the first one with the highest score is meant. -/
theorem IsBest.unique {links : List Text} {t u : Text} {s n : Nat} (ht : IsBest links t s)
    (hu : IsBest links u n) : t = u := by
  have hle := ht.le hu
  have hle' := hu.le ht
  obtain ⟨before, after, hlinks, hscore, -, hbefore⟩ := ht
  obtain ⟨before', after', hlinks', hscore', -, hbefore'⟩ := hu
  rw [hlinks] at hlinks'
  rcases List.append_eq_append_iff.1 hlinks' with ⟨between, hbetween, hrest⟩ | ⟨between, hbetween, hrest⟩
  · cases between with
    | nil => exact (List.cons.inj hrest).1
    | cons v between =>
        -- the first one would stand before the second one with the same score
        obtain ⟨rfl, -⟩ := List.cons.inj hrest
        obtain ⟨m, hm, hless⟩ := hbefore' t (by simp [hbetween])
        rw [hscore, Except.ok.injEq] at hm
        omega
  · cases between with
    | nil => exact (List.cons.inj hrest).1.symm
    | cons v between =>
        obtain ⟨rfl, -⟩ := List.cons.inj hrest
        obtain ⟨m, hm, hless⟩ := hbefore u (by simp [hbetween])
        rw [hscore', Except.ok.injEq] at hm
        omega

theorem distinct_filter (keep : Text → Bool) (links : List Text) :
    distinct (links.filter keep) = (distinct links).filter keep := by
  induction links with
  | nil => rfl
  | cons t links ih =>
      rw [List.filter_cons]
      split_ifs with ht
      · rw [distinct, distinct, ih, List.filter_cons_of_pos ht, List.filter_filter,
          List.filter_filter]
        congr 2
        funext u
        exact Bool.and_comm _ _
      · rw [distinct, ih, List.filter_cons_of_neg ht, List.filter_filter]
        congr 1
        funext u
        by_cases hu : u = t
        · rw [hu]
          simp [ht]
        · simp [hu]

/-- Of several occurrences the first one stays. -/
theorem distinct_eq_eraseDups (links : List Text) : distinct links = links.eraseDups := by
  match links with
  | [] => rfl
  | t :: links =>
      have hother : (fun u : Text => decide (u ≠ t)) = fun u => !u == t := by
        funext u
        rw [decide_not, Bool.beq_eq_decide_eq]
      rw [distinct, List.eraseDups_cons, ← distinct_filter, hother, distinct_eq_eraseDups]
termination_by links.length
decreasing_by exact Nat.lt_succ_of_le (List.length_filter_le _ _)

theorem nodup_distinct (links : List Text) : (distinct links).Nodup := by
  induction links with
  | nil => exact .nil
  | cons t links ih =>
      rw [distinct, List.nodup_cons]
      refine ⟨?_, ih.filter _⟩
      simp

theorem mem_distinct {t : Text} {links : List Text} : t ∈ distinct links ↔ t ∈ links := by
  rw [distinct_eq_eraseDups, List.mem_eraseDups]

theorem combine_none (others : List Text) : combine none others = others.eraseDups :=
  distinct_eq_eraseDups others

theorem mem_combine {meeting : Option Text} {others : List Text} {t : Text}
    (h : t ∈ combine meeting others) : meeting = some t ∨ t ∈ others := by
  unfold combine at h
  split at h
  · exact Or.inr (mem_distinct.1 h)
  · exact Or.inr (mem_distinct.1 h)
  · rcases List.mem_cons.1 (mem_distinct.1 h) with rfl | hmem
    · exact Or.inl rfl
    · exact Or.inr hmem

/-- A meeting that is not among the other links is put before them. -/
theorem combine_some {meeting : Text} (hne : meeting ≠ []) {others : List Text}
    (hmem : meeting ∉ others) : combine (some meeting) others = meeting :: others.eraseDups := by
  obtain ⟨c, rest, rfl⟩ := List.exists_cons_of_ne_nil hne
  have hkept : ∀ t ∈ distinct others, decide (t ≠ c :: rest) = true := by
    intro t ht
    rw [decide_eq_true_eq]
    rintro rfl
    exact hmem (mem_distinct.1 ht)
  rw [combine, distinct, List.filter_eq_self.2 hkept, distinct_eq_eraseDups]
  all_goals simp

end AgendaLinks.Link
