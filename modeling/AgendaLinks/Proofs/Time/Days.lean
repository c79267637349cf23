import AgendaLinks.Time.Date
import Mathlib.Tactic.SplitIfs

/-!
The day after a day and the numbers of days. The day after is in the same month, in the next month or in the
next year, so the last day of the calendar is the only one that has none, and the numbers of the days go on by
one. A day is found by its number, since the year that is tried first is at most one off.
-/

namespace AgendaLinks.Date

/-- The last day of the calendar. -/
def last : Date where
  year := 9999
  month := 12
  day := 31

theorem daysInMonth_pos (year month : Nat) : 1 ≤ daysInMonth year month := by
  unfold daysInMonth
  split_ifs <;> omega

theorem daysInMonth_le (year month : Nat) : daysInMonth year month ≤ 31 := by
  unfold daysInMonth
  split_ifs <;> omega

theorem ofParts?_self (d : Date) : ofParts? d.year d.month d.day = some d := by
  rw [ofParts?, ofParts, dif_pos d.year_mem, dif_pos d.month_mem, dif_pos d.day_mem]
  rfl

theorem ofParts?_eq_none_iff {year month day : Nat} : ofParts? year month day = none ↔
    ¬((1 ≤ year ∧ year ≤ 9999) ∧ (1 ≤ month ∧ month ≤ 12) ∧
      1 ≤ day ∧ day ≤ daysInMonth year month) := by
  unfold ofParts? ofParts
  split_ifs with hyear hmonth hday
  · exact iff_of_false nofun (not_not_intro ⟨hyear, hmonth, hday⟩)
  · exact iff_of_true rfl fun h => hday h.2.2
  · exact iff_of_true rfl fun h => hmonth h.2.1
  · exact iff_of_true rfl fun h => hyear h.1

theorem next?_eq_none_iff {d : Date} : d.next? = none ↔ d = last := by
  constructor
  · intro h
    obtain ⟨year, month, day, hyear, hmonth, hday⟩ := d
    simp only [next?, Option.or_eq_none_iff, ofParts?_eq_none_iff] at h
    obtain ⟨hnextDay, hnextMonth, hnextYear⟩ := h
    have hmonthStarts := daysInMonth_pos year (month + 1)
    have hyearStarts := daysInMonth_pos (year + 1) 1
    have hlastMonth : month = 12 := by omega
    have hlastYear : year = 9999 := by omega
    subst hlastMonth hlastYear
    have hlastDay : day = 31 := by
      have hlength : daysInMonth 9999 12 = 31 := rfl
      omega
    subst hlastDay
    rfl
  · rintro rfl
    rfl

theorem ofParts?_eq_some {year month day : Nat} {d : Date} (h : ofParts? year month day = some d) :
    d.year = year ∧ d.month = month ∧ d.day = day := by
  unfold ofParts? ofParts at h
  split_ifs at h
  all_goals cases h
  exact ⟨rfl, rfl, rfl⟩

theorem daysBeforeMonth_succ {year month : Nat} (h : 1 ≤ month) :
    daysBeforeMonth year (month + 1) = daysBeforeMonth year month + daysInMonth year month := by
  obtain ⟨past, rfl⟩ : ∃ past, month = past + 1 := ⟨month - 1, by omega⟩
  rw [daysBeforeMonth, daysBeforeMonth, Nat.add_sub_cancel, Nat.add_sub_cancel, List.range_succ,
    List.foldl_append]
  rfl

theorem daysBeforeMonth_thirteen (year : Nat) :
    daysBeforeMonth year 13 = if isLeapYear year then 366 else 365 := by
  show List.foldl (fun days m => days + daysInMonth year (m + 1)) 0 (List.range 12) = _
  rw [show List.range 12 = [0, 1, 2, 3, 4, 5, 6, 7, 8, 9, 10, 11] from rfl]
  cases h : isLeapYear year <;> simp [daysInMonth, h]

/-- A year is as long as its months. -/
theorem daysBeforeYear_succ {year : Nat} (h : 1 ≤ year) :
    daysBeforeYear (year + 1) = daysBeforeYear year + daysBeforeMonth year 13 := by
  obtain ⟨past, rfl⟩ : ∃ past, year = past + 1 := ⟨year - 1, by omega⟩
  have hfours : past / 100 ≤ past / 4 := Nat.div_le_div_left (by decide) (by decide)
  have hlong : isLeapYear (past + 1) = true ↔ 4 ∣ past + 1 ∧ (¬100 ∣ past + 1 ∨ 400 ∣ past + 1) := by
    simp [isLeapYear, Nat.dvd_iff_mod_eq_zero]
  rw [daysBeforeMonth_thirteen, daysBeforeYear, daysBeforeYear]
  simp only [Nat.add_sub_cancel, Nat.succ_div, hlong]
  by_cases hfour : 4 ∣ past + 1
  · by_cases hcentury : 100 ∣ past + 1
    · by_cases hcenturies : 400 ∣ past + 1
      · simp only [hfour, hcentury, hcenturies, if_true, not_true, false_or, and_true]
        omega
      · simp only [hfour, hcentury, hcenturies, if_true, if_false, not_true, or_self, and_false]
        omega
    · have hcenturies : ¬400 ∣ past + 1 := fun h => hcentury (Nat.dvd_trans (by decide) h)
      simp only [hfour, hcentury, hcenturies, if_true, if_false, not_false_eq_true, true_or, and_true]
      omega
  · have hcentury : ¬100 ∣ past + 1 := fun h => hfour (Nat.dvd_trans (by decide) h)
    have hcenturies : ¬400 ∣ past + 1 := fun h => hfour (Nat.dvd_trans (by decide) h)
    simp only [hfour, hcentury, hcenturies, if_false, false_and]
    omega

/-- The number of the day after is the next one. -/
theorem number_next? {d after : Date} (h : d.next? = some after) : after.number = d.number + 1 := by
  rw [next?, Option.or_eq_some_iff, Option.or_eq_some_iff] at h
  rcases h with hday | ⟨hlast, hmonth | ⟨hdecember, hyear⟩⟩
  · obtain ⟨hy, hm, hd⟩ := ofParts?_eq_some hday
    rw [number, number, hy, hm, hd]
    omega
  · have hday : d.day = daysInMonth d.year d.month := by
      rw [ofParts?_eq_none_iff] at hlast
      have := d.year_mem
      have := d.month_mem
      have := d.day_mem
      omega
    obtain ⟨hy, hm, hd⟩ := ofParts?_eq_some hmonth
    rw [number, number, hy, hm, hd, daysBeforeMonth_succ d.month_mem.1, hday]
    omega
  · have hmonth : d.month = 12 := by
      rw [ofParts?_eq_none_iff] at hdecember
      have := d.year_mem
      have := d.month_mem
      have := daysInMonth_pos d.year (d.month + 1)
      omega
    have hday : d.day = daysInMonth d.year 12 := by
      rw [ofParts?_eq_none_iff, hmonth] at hlast
      have := d.year_mem
      have := d.day_mem
      rw [hmonth] at this
      omega
    obtain ⟨hy, hm, hd⟩ := ofParts?_eq_some hyear
    have hnone : daysBeforeMonth (d.year + 1) 1 = 0 := rfl
    have hwhole : daysBeforeMonth d.year 13 = daysBeforeMonth d.year 12 + daysInMonth d.year 12 :=
      daysBeforeMonth_succ (by decide)
    rw [number, number, hy, hm, hd, hmonth, hday, hnone, daysBeforeYear_succ d.year_mem.1, hwhole]
    omega

/-- A year has as many days before a month as before an earlier one and in it, or more. -/
theorem daysBeforeMonth_add_le (year : Nat) {month later : Nat} (hpos : 1 ≤ month) (h : month < later) :
    daysBeforeMonth year month + daysInMonth year month ≤ daysBeforeMonth year later := by
  rw [← daysBeforeMonth_succ hpos]
  induction h with
  | refl => exact Nat.le_refl _
  | step h ih =>
    rw [daysBeforeMonth_succ (Nat.one_le_of_lt h)]
    exact Nat.le_trans ih (Nat.le_add_right _ _)

theorem daysBeforeMonth_add_day_le (d : Date) :
    daysBeforeMonth d.year d.month + d.day ≤ daysBeforeMonth d.year 13 :=
  Nat.le_trans (Nat.add_le_add_left d.day_mem.2 _)
    (daysBeforeMonth_add_le d.year d.month_mem.1 (Nat.lt_succ_of_le d.month_mem.2))

section inYear

variable {year month count k : Nat}

/-- Counting the days off along the months of a year finds each of its days. -/
theorem inYear_range' {day first : Nat} (hpos : 1 ≤ first) (hfirst : first ≤ month)
    (hmonth : month < first + count) (hday : day ≤ daysInMonth year month) (hone : 1 ≤ day)
    (hk : k + daysBeforeMonth year first = daysBeforeMonth year month + day) :
    inYear year (List.range' first count) k = ofParts? year month day := by
  induction count generalizing first k with
  | zero => omega
  | succ count ih =>
    rw [List.range'_succ, inYear]
    rcases Nat.eq_or_lt_of_le hfirst with rfl | hlater
    · obtain rfl : k = day := by omega
      exact if_pos hday
    · have hpast := daysBeforeMonth_add_le year hpos hlater
      rw [if_neg (by omega)]
      refine ih (Nat.le_succ_of_le hpos) hlater (by omega) ?_
      rw [daysBeforeMonth_succ hpos]
      omega

theorem inYear_eq_some {first : Nat} {d : Date} (hpos : 1 ≤ first)
    (h : inYear year (List.range' first count) k = some d) :
    d.year = year ∧ k + daysBeforeMonth year first = daysBeforeMonth year d.month + d.day := by
  induction count generalizing first k with
  | zero => cases h
  | succ count ih =>
    rw [List.range'_succ, inYear] at h
    split_ifs at h with hwidth
    · obtain ⟨hyear, hmonth, hday⟩ := ofParts?_eq_some h
      rw [hmonth, hday]
      exact ⟨hyear, Nat.add_comm _ _⟩
    · obtain ⟨hyear, hk⟩ := ih (Nat.le_succ_of_le hpos) h
      rw [daysBeforeMonth_succ hpos] at hk
      exact ⟨hyear, by omega⟩

end inYear

theorem months_eq : (List.range 12).map (· + 1) = List.range' 1 12 := by decide

theorem daysBeforeMonth_one (year : Nat) : daysBeforeMonth year 1 = 0 := rfl

theorem yearLength_eq (year : Nat) : yearLength year = daysBeforeMonth year 13 :=
  (daysBeforeMonth_thirteen year).symm

/-- The day that is found by a number within a year has the number that many days after the year before. -/
theorem number_ofYearDay? {year : Nat} {k : Int} {d : Date} (hyear : 1 ≤ year)
    (h : ofYearDay? year k = some d) : (d.number : Int) = daysBeforeYear year + k := by
  have hone := daysBeforeMonth_one
  simp only [ofYearDay?, months_eq, yearLength_eq] at h
  split_ifs at h with hbefore hafter
  · obtain ⟨hin, hk⟩ := inYear_eq_some (Nat.le_refl 1) h
    have hpast : daysBeforeYear year = daysBeforeYear (year - 1) + daysBeforeMonth (year - 1) 13 := by
      obtain ⟨past, rfl⟩ : ∃ past, year = past + 1 := ⟨year - 1, by omega⟩
      exact daysBeforeYear_succ (by have := d.year_mem; omega)
    have := d.day_mem.1
    rw [number, hin, hpast]
    rw [hone] at hk
    omega
  · obtain ⟨hin, hk⟩ := inYear_eq_some (Nat.le_refl 1) h
    rw [number, hin, daysBeforeYear_succ hyear]
    rw [hone] at hk
    omega
  · obtain ⟨hin, hk⟩ := inYear_eq_some (Nat.le_refl 1) h
    rw [number, hin]
    rw [hone] at hk
    omega

theorem ofYearDay?_eq_some {year : Nat} {k : Int} {d : Date} (hyear : 1 ≤ year)
    (hnear : year ≤ d.year + 1 ∧ d.year ≤ year + 1) (h : (d.number : Int) = daysBeforeYear year + k) :
    ofYearDay? year k = some d := by
  have hlength := daysBeforeMonth_add_day_le d
  have hday := d.day_mem.1
  have hfound : inYear d.year (List.range' 1 12) (daysBeforeMonth d.year d.month + d.day) = some d :=
    (inYear_range' (Nat.le_refl 1) d.month_mem.1 (Nat.lt_succ_of_le d.month_mem.2) d.day_mem.2 hday
      rfl).trans (ofParts?_self d)
  simp only [ofYearDay?, months_eq, yearLength_eq]
  rw [number] at h
  obtain hsame | hlast | hnext : year = d.year ∨ year = d.year + 1 ∨ d.year = year + 1 := by omega
  · rw [hsame] at h ⊢
    rw [if_neg (by omega), if_neg (by omega), ← hfound]
    congr 1
    omega
  · rw [hlast, daysBeforeYear_succ d.year_mem.1] at h
    rw [hlast, Nat.add_sub_cancel, if_pos (by omega), ← hfound]
    congr 1
    omega
  · rw [hnext, daysBeforeYear_succ hyear] at h
    rw [hnext] at hlength hfound
    rw [if_neg (by omega), if_pos (by omega), ← hfound]
    congr 1
    omega

/-- Every day is found by its number. -/
theorem ofNumber?_number (d : Date) : ofNumber? d.number = some d := by
  have hlength := daysBeforeMonth_add_day_le d
  have hyear := d.year_mem
  have hday := d.day_mem.1
  rw [daysBeforeMonth_thirteen] at hlength
  refine ofYearDay?_eq_some (Nat.le_add_left 1 _) ?_ ?_
  · have hshort : daysBeforeMonth d.year d.month + d.day ≤ 366 := by
      split_ifs at hlength <;> omega
    rw [number, daysBeforeYear]
    omega
  · omega

theorem number_ofNumber? {n : Nat} {d : Date} (h : ofNumber? n = some d) : d.number = n := by
  have := number_ofYearDay? (Nat.le_add_left 1 _) h
  omega

theorem number_pos (d : Date) : 0 < d.number :=
  Nat.lt_of_lt_of_le d.day_mem.1 (Nat.le_add_left _ _)

theorem number_le (d : Date) : d.number ≤ 3652059 := by
  have hlength := d.daysBeforeMonth_add_day_le
  have hyear := d.year_mem
  have hwhole := daysBeforeYear_succ hyear.1
  have hlast : daysBeforeYear (d.year + 1) ≤ 3652059 := by
    simp only [daysBeforeYear, Nat.add_sub_cancel]
    omega
  rw [number]
  omega

/-- Every number up to that of the last day is the number of a day. -/
theorem exists_number {n : Nat} (hpos : 1 ≤ n) (hle : n ≤ 3652059) : ∃ d : Date, d.number = n := by
  induction hpos with
  | refl => exact ⟨⟨1, 1, 1, by decide, by decide, by decide⟩, rfl⟩
  | step _ ih =>
    obtain ⟨d, rfl⟩ := ih (Nat.le_of_succ_le hle)
    cases hnext : d.next? with
    | none =>
      rw [next?_eq_none_iff.mp hnext] at hle
      exact absurd hle (by decide)
    | some after => exact ⟨after, number_next? hnext⟩

end AgendaLinks.Date
