import AgendaLinks.Proofs.Listing.Windows

/-!
Events and windows as sets of instants. An event takes the instants from its start up to its end, its start
alone if it has no later end, or all of its days at the offset of the end of the window. It is in a window
exactly if one of its instants is, whatever offsets the points in time are written with.
-/

namespace AgendaLinks

/-- An event takes an instant. Its whole days are those of an offset, and each is as long as any other. -/
inductive Event.Takes (e : Event) (offset : UtcOffset) (t : Int) : Prop
  | span {start finish : Stamp} (hstart : e.startAt = some start) (hend : e.endAt = some finish)
      (hfrom : start.instant ≤ t) (hto : t < finish.instant)
  | moment {start : Stamp} (hstart : e.startAt = some start)
      (hend : ∀ finish, e.endAt = some finish → finish.instant ≤ start.instant)
      (ht : t = start.instant)
  | days {first : Date} (htime : e.startAt = none) (hstart : e.startOn = some first)
      (hfrom : (Stamp.startOf first offset).instant ≤ t)
      (hto : t < (Stamp.startOf (e.endOn.getD first) offset).instant + dayMicros)
  | always (htime : e.startAt = none) (hstart : e.startOn = none)

namespace Event

variable {e : Event} {offset : UtcOffset} {t : Int}

theorem takes_iff_of_span {start finish : Stamp} (hstart : e.startAt = some start)
    (hend : e.endAt = some finish) (hlater : start.instant < finish.instant) :
    e.Takes offset t ↔ start.instant ≤ t ∧ t < finish.instant := by
  constructor
  · rintro (⟨hstart', hend', hfrom, hto⟩ | ⟨hstart', hnone, -⟩ | ⟨htime, -⟩ | ⟨htime, -⟩)
    · rw [hstart, Option.some.injEq] at hstart'
      rw [hend, Option.some.injEq] at hend'
      rw [hstart', hend']
      exact ⟨hfrom, hto⟩
    · rw [hstart, Option.some.injEq] at hstart'
      have := hnone finish hend
      rw [← hstart'] at this
      omega
    · rw [hstart] at htime
      cases htime
    · rw [hstart] at htime
      cases htime
  · exact fun h => .span hstart hend h.1 h.2

theorem takes_iff_of_moment {start : Stamp} (hstart : e.startAt = some start)
    (hend : ∀ finish, e.endAt = some finish → finish.instant ≤ start.instant) :
    e.Takes offset t ↔ t = start.instant := by
  constructor
  · rintro (⟨hstart', hend', hfrom, hto⟩ | ⟨hstart', -, ht⟩ | ⟨htime, -⟩ | ⟨htime, -⟩)
    · rw [hstart, Option.some.injEq] at hstart'
      have := hend _ hend'
      rw [hstart'] at this
      omega
    · rw [hstart, Option.some.injEq] at hstart'
      rw [hstart', ht]
    · rw [hstart] at htime
      cases htime
    · rw [hstart] at htime
      cases htime
  · exact fun h => .moment hstart hend h

theorem takes_iff_of_days {first : Date} (htime : e.startAt = none) (hstart : e.startOn = some first) :
    e.Takes offset t ↔ (Stamp.startOf first offset).instant ≤ t ∧
      t < (Stamp.startOf (e.endOn.getD first) offset).instant + dayMicros := by
  constructor
  · rintro (⟨hstart', -⟩ | ⟨hstart', -⟩ | ⟨-, hstart', hfrom, hto⟩ | ⟨-, hnone⟩)
    · rw [htime] at hstart'
      cases hstart'
    · rw [htime] at hstart'
      cases hstart'
    · rw [hstart, Option.some.injEq] at hstart'
      rw [hstart']
      exact ⟨hfrom, hto⟩
    · rw [hstart] at hnone
      cases hnone
  · exact fun h => .days htime hstart h.1 h.2

end Event

/-- Two spans that are not empty share an instant when each begins before the other ends. -/
theorem exists_shared_iff {a b s f : Int} (hab : a < b) (hsf : s < f) :
    (∃ t, (a ≤ t ∧ t < b) ∧ s ≤ t ∧ t < f) ↔ a < f ∧ s < b := by
  constructor
  · rintro ⟨t, hown, hwindow⟩
    omega
  · rintro ⟨haf, hsb⟩
    rcases Int.le_total a s with has | hsa
    · exact ⟨s, ⟨has, hsb⟩, Int.le_refl s, hsf⟩
    · exact ⟨a, ⟨Int.le_refl a, hab⟩, hsa, haf⟩

/-- The day after begins a day later. -/
theorem Stamp.instant_startOf_next {d after : Date} (h : d.next? = some after) (offset : UtcOffset) :
    (Stamp.startOf after offset).instant = (Stamp.startOf d offset).instant + dayMicros := by
  simp only [Stamp.instant, Stamp.startOf, Date.number_next? h, dayMicros]
  omega

theorem Stamp.instant_startOf_mono {d d' : Date} (h : d.number ≤ d'.number) (offset : UtcOffset) :
    (Stamp.startOf d offset).instant ≤ (Stamp.startOf d' offset).instant := by
  simp only [Stamp.instant, Stamp.startOf, dayMicros]
  omega

namespace Window

variable {w : Window} {e : Event}

/-- An event takes an instant of a window, its whole days at the offset of the end of the window. -/
def Shares (w : Window) (e : Event) : Prop :=
  ∃ t, e.Takes w.finish.offset t ∧ w.start.instant ≤ t ∧ t < w.finish.instant

theorem overlaps_iff (hw : w.start.instant < w.finish.instant) {start finish : Stamp}
    (h : start.instant < finish.instant) : w.overlaps start finish = true ↔
      ∃ t, (start.instant ≤ t ∧ t < finish.instant) ∧
        w.start.instant ≤ t ∧ t < w.finish.instant := by
  rw [exists_shared_iff h hw, overlaps, Bool.and_eq_true, decide_eq_true_eq, decide_eq_true_eq]

theorem shares_iff_of_moment {start : Stamp} (hstart : e.startAt = some start)
    (hend : ∀ finish, e.endAt = some finish → finish.instant ≤ start.instant) :
    w.Shares e ↔ w.start.instant ≤ start.instant ∧ start.instant < w.finish.instant := by
  unfold Shares
  constructor
  · rintro ⟨t, htakes, hwindow⟩
    rw [Event.takes_iff_of_moment hstart hend] at htakes
    rwa [htakes] at hwindow
  · exact fun h => ⟨start.instant, (Event.takes_iff_of_moment hstart hend).2 rfl, h⟩

theorem includes_of_time (hw : w.start.instant < w.finish.instant) {start : Stamp}
    (hstart : e.startAt = some start) :
    ∃ inside, w.includes e = .ok inside ∧ (inside = true ↔ w.Shares e) := by
  unfold includes
  rw [hstart]
  dsimp only
  by_cases hend : (e.endAt.getD start).instant ≤ start.instant
  · -- the event takes no time
    rw [if_pos hend]
    refine ⟨_, rfl, ?_⟩
    have hmoment (finish : Stamp) (hfinish : e.endAt = some finish) :
        finish.instant ≤ start.instant := by rwa [hfinish] at hend
    rw [shares_iff_of_moment hstart hmoment, Bool.and_eq_true, decide_eq_true_eq, decide_eq_true_eq]
  · rw [if_neg hend]
    refine ⟨_, rfl, ?_⟩
    cases hfinish : e.endAt with
    | none =>
        rw [hfinish] at hend
        exact absurd (Int.le_refl _) hend
    | some finish =>
        rw [hfinish, Option.getD_some, Int.not_le] at hend
        simp only [Shares, Event.takes_iff_of_span hstart hfinish hend]
        exact overlaps_iff hw hend

theorem includes_of_days (hw : w.start.instant < w.finish.instant) (htime : e.startAt = none)
    {first : Date} (hstart : e.startOn = some first) {after : Date}
    (hnext : (e.endOn.getD first).next? = some after)
    (hdays : first.number ≤ (e.endOn.getD first).number) :
    ∃ inside, w.includes e = .ok inside ∧ (inside = true ↔ w.Shares e) := by
  have hafter := Stamp.instant_startOf_next hnext w.finish.offset
  have hlong : (Stamp.startOf first w.finish.offset).instant <
      (Stamp.startOf after w.finish.offset).instant := by
    have := Stamp.instant_startOf_mono hdays w.finish.offset
    rw [hafter, dayMicros]
    omega
  unfold includes
  rw [htime, hstart]
  dsimp only
  rw [hnext]
  refine ⟨_, rfl, ?_⟩
  simp only [Shares, Event.takes_iff_of_days htime hstart, ← hafter]
  exact overlaps_iff hw hlong

/-- An event is in a window exactly if it takes an instant of it. Left aside are the last day of the
calendar, which cannot be compared, and days that end before they begin. -/
theorem includes_iff_shares (w : Window) (e : Event) (hw : w.start.instant < w.finish.instant)
    (hlast : ¬e.TakesLastDay)
    (hdays : e.startAt = none → ∀ first last, e.startOn = some first → e.endOn = some last →
      first.number ≤ last.number) :
    ∃ inside, w.includes e = .ok inside ∧ (inside = true ↔ w.Shares e) := by
  cases htime : e.startAt with
  | some start => exact includes_of_time hw htime
  | none =>
      cases hstart : e.startOn with
      | some first =>
          have hordered : first.number ≤ (e.endOn.getD first).number := by
            cases hend : e.endOn with
            | none => exact Nat.le_refl _
            | some last => exact hdays htime first last hstart hend
          cases hnext : (e.endOn.getD first).next? with
          | none => exact absurd ⟨htime, first, hstart, Date.next?_eq_none_iff.1 hnext⟩ hlast
          | some after => exact includes_of_days hw htime hstart hnext hordered
      | none =>
          refine ⟨true, ?_, iff_of_true rfl ?_⟩
          · unfold includes
            rw [htime, hstart]
          · exact ⟨w.start.instant, .always htime hstart, Int.le_refl _, hw⟩

/-- At the offset of the end of the window, the trip is over an hour and a half before the window begins. -/
theorem includes_iff_shares_trip : ∃ (w : Window) (e : Event),
    w.start = ⟨{ year := 2024, month := 5, day := 2 },
      { hour := 23, minute := 30, second := 0, micro := 0 }, .zero⟩ ∧
    w.finish = ⟨{ year := 2024, month := 5, day := 3 },
      { hour := 12, minute := 0, second := 0, micro := 0 }, ⟨7200000000, by decide⟩⟩ ∧
    e = {
      title := "Trip".toList, calendar := "Work".toList
      startOn := some { year := 2024, month := 5, day := 1 }
      endOn := some { year := 2024, month := 5, day := 2 } } ∧
    w.start.instant < w.finish.instant ∧ ¬e.TakesLastDay ∧
    (e.startAt = none → ∀ first last, e.startOn = some first → e.endOn = some last →
      first.number ≤ last.number) ∧
    w.includes e = .ok false ∧
    ∃ inside, w.includes e = .ok inside ∧ (inside = true ↔ w.Shares e) := by
  have hw : (⟨{ year := 2024, month := 5, day := 2 },
      { hour := 23, minute := 30, second := 0, micro := 0 }, .zero⟩ : Stamp).instant <
      (⟨{ year := 2024, month := 5, day := 3 },
        { hour := 12, minute := 0, second := 0, micro := 0 }, ⟨7200000000, by decide⟩⟩ : Stamp).instant := by
    decide
  have hlast : ¬Event.TakesLastDay {
      title := "Trip".toList, calendar := "Work".toList
      startOn := some { year := 2024, month := 5, day := 1 }
      endOn := some { year := 2024, month := 5, day := 2 } } := by
    rintro ⟨-, first, -, hlast⟩
    have hyear : 2024 = 9999 := congrArg Date.year hlast
    omega
  have hdays (first last : Date)
      (hfirst : some ({ year := 2024, month := 5, day := 1 } : Date) = some first)
      (hend : some ({ year := 2024, month := 5, day := 2 } : Date) = some last) :
      first.number ≤ last.number := by
    cases hfirst
    cases hend
    decide
  exact ⟨⟨_, _⟩, _, rfl, rfl, rfl, hw, hlast, fun _ => hdays, by decide,
    includes_iff_shares _ _ hw hlast fun _ => hdays⟩

end Window

end AgendaLinks
