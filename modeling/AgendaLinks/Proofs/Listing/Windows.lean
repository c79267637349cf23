import AgendaLinks.Proofs.Fallible
import AgendaLinks.Proofs.Listing.Origins
import AgendaLinks.Proofs.Time.Days
import AgendaLinks.Window

/-!
Reading the events of a window of time. Whatever the lines are, reading gives the events that are in the
window, with one exception: the day after the last day of the calendar has no name, so an event that
takes whole days up to that day cannot be compared with any window, and the listing is lost with it.
-/

namespace AgendaLinks

/-- Events that take whole days, of which the last is the last day of the calendar. -/
def Event.TakesLastDay (e : Event) : Prop :=
  e.startAt = none ∧ ∃ first, e.startOn = some first ∧ e.endOn.getD first = Date.last

namespace Window

/-- Events with a point in time as their start are compared at every offset, and so are events without a
start and those of whole days before the last one. -/
theorem includes_cases (w : Window) (e : Event) :
    (e.TakesLastDay ∧ w.includes e = .error .noDayAfter) ∨
      (¬e.TakesLastDay ∧ ∃ inside, w.includes e = .ok inside) := by
  unfold includes
  cases hstartAt : e.startAt with
  | some start =>
      refine Or.inr ⟨fun hlast => ?_, ?_⟩
      · rw [hlast.1] at hstartAt
        cases hstartAt
      · dsimp only
        split_ifs <;> exact ⟨_, rfl⟩
  | none =>
      cases hstartOn : e.startOn with
      | none =>
          refine Or.inr ⟨?_, true, rfl⟩
          rintro ⟨-, first, hfirst, -⟩
          rw [hfirst] at hstartOn
          cases hstartOn
      | some first =>
          dsimp only
          cases hnext : (e.endOn.getD first).next? with
          | none => exact Or.inl ⟨⟨hstartAt, first, hstartOn, Date.next?_eq_none_iff.1 hnext⟩, rfl⟩
          | some after =>
              refine Or.inr ⟨?_, _, rfl⟩
              rintro ⟨-, first', hfirst', hlast⟩
              rw [hstartOn, Option.some.injEq] at hfirst'
              subst hfirst'
              rw [Date.next?_eq_none_iff.2 hlast] at hnext
              cases hnext

theorem exists_includes_iff {w : Window} {e : Event} :
    (∃ inside, w.includes e = .ok inside) ↔ ¬e.TakesLastDay := by
  rcases w.includes_cases e with ⟨hlast, herror⟩ | ⟨hlast, hok⟩
  · refine iff_of_false ?_ (not_not_intro hlast)
    rintro ⟨inside, hinside⟩
    rw [herror] at hinside
    cases hinside
  · exact iff_of_true hok hlast

end Window

namespace Listing

section

variable {ε : Type} {accept : Filter ε} {es : List Event}

theorem exists_pick_iff : (∃ kept, pick accept es = .ok kept) ↔ ∀ e ∈ es, ∃ keep, accept e = .ok keep := by
  induction es with
  | nil => exact iff_of_true ⟨[], rfl⟩ fun e he => absurd he List.not_mem_nil
  | cons e es ih =>
      rw [pick, exists_bind_eq_ok_iff, List.forall_mem_cons, ← ih]
      constructor
      · rintro ⟨keep, hkeep, hrest⟩
        obtain ⟨kept, hkept, -⟩ := exists_bind_eq_ok_iff.1 hrest
        exact ⟨⟨keep, hkeep⟩, kept, hkept⟩
      · rintro ⟨⟨keep, hkeep⟩, kept, hkept⟩
        exact ⟨keep, hkeep, exists_bind_eq_ok_iff.2 ⟨kept, hkept, _, rfl⟩⟩

/-- The picked events are those that pass the test, in their order. -/
theorem eq_filter_of_pick {kept : List Event} {passes : Event → Bool}
    (hpasses : ∀ e, passes e = true ↔ accept e = .ok true) (h : pick accept es = .ok kept) :
    kept = es.filter passes := by
  induction es generalizing kept with
  | nil =>
      cases h
      rfl
  | cons e es ih =>
      rw [pick] at h
      obtain ⟨keep, hkeep, h⟩ := exists_of_bind_eq_ok h
      obtain ⟨rest, hrest, h⟩ := exists_of_bind_eq_ok h
      cases h
      rw [ih hrest]
      cases keep with
      | true =>
          rw [List.filter_cons_of_pos ((hpasses e).2 hkeep)]
          rfl
      | false =>
          rw [List.filter_cons_of_neg]
          · rfl
          · rw [hpasses, hkeep]
            simp

end

variable (known : List Calendar) (w : Window) (lines : List Text)

theorem exists_readEvents_iff : (∃ es, (readEvents known w.includes lines).value = .ok es) ↔
    ∀ e ∈ eventsIn (known.map (·.title)) (unplacedSections lines), ¬e.TakesLastDay := by
  rw [value_readEvents_eq_pick, exists_pick_iff]
  exact forall₂_congr fun e _ => Window.exists_includes_iff

/-- What is read of a listing are the events of its sections that are in the window. -/
theorem eq_filter_of_readEvents {es : List Event}
    (h : (readEvents known w.includes lines).value = .ok es) :
    es = (eventsIn (known.map (·.title)) (unplacedSections lines)).filter fun e =>
      w.includes e = .ok true := by
  rw [value_readEvents_eq_pick] at h
  exact eq_filter_of_pick (fun e => decide_eq_true_iff) h

/-- A listing is read exactly if none of its events takes the last day of the calendar. What is read are
then the events that are in the window; otherwise it is the fault of that day. Such an event has a line
that names the day, so without such a line every listing is read. -/
theorem readEvents_window :
    ∃ all, (readEvents known (acceptAll : Filter WindowFault) lines).value = .ok all ∧
      ((∃ es, (readEvents known w.includes lines).value = .ok es) ↔ ∀ e ∈ all, ¬e.TakesLastDay) ∧
      (∀ es, (readEvents known w.includes lines).value = .ok es →
        es = all.filter fun e => w.includes e = .ok true) ∧
      ((∃ e ∈ all, e.TakesLastDay) →
        (readEvents known w.includes lines).value = .error .noDayAfter) ∧
      ∀ e ∈ all, e.TakesLastDay → ∃ line ∈ lines, NamesDay (chomp line) Date.last := by
  have hread := exists_readEvents_iff known w lines
  refine ⟨_, value_readEvents_acceptAll known lines, hread,
    fun es => eq_filter_of_readEvents known w lines, ?_, ?_⟩
  · rintro ⟨e, he, hlast⟩
    cases hvalue : (readEvents known w.includes lines).value with
    | error fault => cases fault; rfl
    | ok es => exact absurd hlast (hread.1 ⟨es, hvalue⟩ e he)
  · rintro e he ⟨-, first, hfirst, hlast⟩
    apply exists_namesDay_of_mem_eventsIn he
    cases hend : e.endOn with
    | none =>
        rw [hend, Option.getD_none] at hlast
        exact Or.inl (by rw [hfirst, hlast])
    | some day =>
        rw [hend, Option.getD_some] at hlast
        exact Or.inr (by rw [hlast])

/-- A trip on the last day of the calendar costs the whole listing, and the call before it too. -/
theorem readEvents_last_day :
    (readEvents [⟨"Work".toList, none, none⟩]
      (Window.includes ⟨.startOf { year := 2024, month := 1, day := 1 } .zero,
        .startOf { year := 2024, month := 1, day := 2 } .zero⟩)
      ["• Call (Work)".toList, "    2024-01-01".toList, "• Trip (Work)".toList,
        "    9999-12-31".toList]).value = .error .noDayAfter := by
  decide +kernel

end Listing

end AgendaLinks
