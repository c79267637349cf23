import AgendaLinks.Listing.Events
import AgendaLinks.Proofs.Listing.Lines

/-!
Headings. The calendar that is split off a heading is a known one and stands in parentheses at its end,
after the longest title that leaves one; where no calendar is known, whatever stands there will do.
-/

namespace AgendaLinks.Listing

open Text

/-- A heading falls into a title of one line and a known calendar in parentheses. -/
structure Splits (known : Text → Bool) (heading title calendar : Text) : Prop where
  eq : heading = title ++ (" (".toList ++ (calendar ++ [')']))
  one_line : '\n' ∉ title
  known : known calendar = true

theorem Splits.tail {known : Text → Bool} {c d : Char} {cs title calendar : Text}
    (h : Splits known (c :: cs) (d :: title) calendar) : c ≠ '\n' ∧ Splits known cs title calendar := by
  have hline := h.one_line
  rw [List.mem_cons, not_or] at hline
  obtain ⟨rfl, hcs⟩ := List.cons.inj h.eq
  exact ⟨Ne.symm hline.1, hcs, hline.2, h.known⟩

theorem splits_of_splitHeading {known : Text → Bool} {t title calendar : Text}
    (h : splitHeading known t = some (title, calendar)) : Splits known t title calendar := by
  induction t generalizing title with
  | nil => cases h
  | cons c cs ih =>
      rw [splitHeading] at h
      split at h
      · rename_i longer hlonger
        split_ifs at hlonger with hc
        rw [h] at hlonger
        obtain ⟨⟨former, latter⟩, hcs, heq⟩ := Option.map_eq_some_iff.1 hlonger
        rw [Prod.mk.injEq] at heq
        obtain ⟨rfl, rfl⟩ := heq
        have hsplits := ih hcs
        refine ⟨by rw [List.cons_append, ← hsplits.eq], ?_, hsplits.known⟩
        rw [List.mem_cons, not_or]
        exact ⟨Ne.symm hc, hsplits.one_line⟩
      · split at h
        · rename_i rest hrest
          dsimp only at h
          split_ifs at h with hend
          rw [Bool.and_eq_true, decide_eq_true_eq] at hend
          rw [Option.some.injEq, Prod.mk.injEq] at h
          obtain ⟨rfl, rfl⟩ := h
          refine ⟨?_, List.not_mem_nil, hend.2⟩
          rw [after?_eq_some_iff.1 hrest, List.nil_append,
            List.dropLast_append_getLast? ')' hend.1]
        · cases h

/-- The longest title is split off, so a calendar that ends in no other one is found. -/
theorem splitHeading_append {known : Text → Bool} {title calendar : Text} (htitle : '\n' ∉ title)
    (hknown : known calendar = true)
    (hunambiguous : ∀ s, known s = true → ¬" (".toList ++ s <:+ calendar) :
    splitHeading known (title ++ (" (".toList ++ (calendar ++ [')']))) = some (title, calendar) := by
  induction title with
  | nil =>
      -- with a longer title an ending of the calendar would be a known calendar too
      have hlonger : splitHeading known ('(' :: (calendar ++ [')'])) = none := by
        rw [Option.eq_none_iff_forall_ne_some]
        rintro ⟨former, s⟩ hsplit
        obtain ⟨heq, -, hs⟩ := splits_of_splitHeading hsplit
        cases former with
        | nil => cases heq
        | cons c former =>
            rw [List.cons_append, List.cons.injEq, ← List.append_assoc, ← List.append_assoc] at heq
            have hcalendar := List.append_cancel_right heq.2
            exact hunambiguous s hs ⟨former, by rw [hcalendar, List.append_assoc]⟩
      show splitHeading known (' ' :: '(' :: (calendar ++ [')'])) = _
      rw [splitHeading, hlonger]
      simp [after?, hknown]
  | cons c title ih =>
      rw [List.mem_cons, not_or] at htitle
      rw [List.cons_append, splitHeading, if_neg (Ne.symm htitle.1), ih htitle.2]
      rfl

theorem isCalendar_eq_contains {titles : List Text} (h : titles ≠ []) :
    isCalendar titles = titles.contains := by
  funext t
  rw [isCalendar, if_neg]
  rwa [List.isEmpty_iff]

/-- Any heading that ends with a calendar in parentheses is split, if not always there. -/
theorem Splits.exists_splitHeading {known : Text → Bool} {t title calendar : Text}
    (h : Splits known t title calendar) : ∃ split, splitHeading known t = some split := by
  obtain ⟨rfl, htitle, hknown⟩ := h
  induction title with
  | nil =>
      show ∃ split, splitHeading known (' ' :: '(' :: (calendar ++ [')'])) = some split
      rw [splitHeading]
      cases splitHeading known ('(' :: (calendar ++ [')'])) with
      | none => exact ⟨([], calendar), by simp [after?, hknown]⟩
      | some longer => exact ⟨_, rfl⟩
  | cons c title ih =>
      rw [List.mem_cons, not_or] at htitle
      obtain ⟨split, hsplit⟩ := ih htitle.2
      rw [List.cons_append, splitHeading, if_neg (Ne.symm htitle.1), hsplit]
      exact ⟨_, rfl⟩

/-- No way to split a heading leaves a longer title than the one that is taken. -/
theorem Splits.length_le {known : Text → Bool} {t title calendar title' calendar' : Text}
    (h' : Splits known t title' calendar') (h : splitHeading known t = some (title, calendar)) :
    title'.length ≤ title.length := by
  induction t generalizing title title' with
  | nil => cases h
  | cons c cs ih =>
      cases title' with
      | nil => exact Nat.zero_le _
      | cons d former =>
          -- without the first character the heading can be split too, and that is tried first
          obtain ⟨hc, hformer⟩ := h'.tail
          obtain ⟨⟨later, other⟩, hlater⟩ := hformer.exists_splitHeading
          rw [splitHeading, if_neg hc, hlater] at h
          cases h
          exact Nat.succ_le_succ (ih hformer hlater)

theorem Splits.eq_of_length {known : Text → Bool} {t title calendar title' calendar' : Text}
    (h : Splits known t title calendar) (h' : Splits known t title' calendar')
    (hlength : title.length = title'.length) : title = title' ∧ calendar = calendar' := by
  obtain ⟨htitle, hrest⟩ := List.append_inj (h.eq.symm.trans h'.eq) hlength
  have hcalendar := List.append_cancel_left hrest
  exact ⟨htitle, List.append_cancel_right hcalendar⟩

/-- Of all ways to split a heading the one with the longest title is taken. -/
theorem splitHeading_eq_some_iff {known : Text → Bool} {t title calendar : Text} :
    splitHeading known t = some (title, calendar) ↔ Splits known t title calendar ∧
      ∀ title' calendar', Splits known t title' calendar' → title'.length ≤ title.length := by
  constructor
  · exact fun h => ⟨splits_of_splitHeading h, fun _ _ h' => h'.length_le h⟩
  · rintro ⟨hsplits, hlongest⟩
    obtain ⟨⟨title', calendar'⟩, h⟩ := hsplits.exists_splitHeading
    have hsplits' := splits_of_splitHeading h
    have hlength := Nat.le_antisymm (hlongest _ _ hsplits') (hsplits.length_le h)
    obtain ⟨rfl, rfl⟩ := hsplits'.eq_of_length hsplits hlength
    exact h

end AgendaLinks.Listing
