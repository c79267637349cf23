import AgendaLinks.Command.Arguments
import AgendaLinks.Proofs.Time.Printed

/-!
Local times placed in a zone. Whatever stamp a local time gets, the clocks are at its offset at its instant.
Where the clocks have been at one offset for two days and stay at it for two more, the stamp is the local time
itself at that offset.
-/

namespace AgendaLinks

theorem Clock.micros_lt (c : Clock) : c.micros < dayMicros := by
  have := c.hour_lt
  have := c.minute_lt
  have := c.second_lt
  have := c.micro_lt
  unfold micros dayMicros
  omega

theorem Clock.ofParts?_micros (c : Clock) :
    ofParts? (c.micros / 3600000000) (c.micros / 60000000 % 60) (c.micros / 1000000 % 60)
      (c.micros % 1000000) = some c := by
  have hhour := c.hour_lt
  have hminute := c.minute_lt
  have hsecond := c.second_lt
  have hmicro := c.micro_lt
  have hh : c.micros / 3600000000 = c.hour := by unfold micros; omega
  have hm : c.micros / 60000000 % 60 = c.minute := by unfold micros; omega
  have hs : c.micros / 1000000 % 60 = c.second := by unfold micros; omega
  have hu : c.micros % 1000000 = c.micro := by unfold micros; omega
  rw [hh, hm, hs, hu]
  exact c.ofParts?_self

theorem Stamp.ofInstant?_self (d : Date) (c : Clock) :
    ofInstant? (d.number * dayMicros + c.micros) = some ⟨d, c, .zero⟩ := by
  have hlt := c.micros_lt
  have hday : (d.number * dayMicros + c.micros) / dayMicros = d.number := by
    unfold dayMicros at *
    omega
  have hrest : (d.number * dayMicros + c.micros) % dayMicros = c.micros := by
    unfold dayMicros at *
    omega
  simp [ofInstant?, hday, hrest, Date.ofNumber?_number, Clock.ofParts?_micros]

theorem Stamp.instant_ofInstant? {n : Nat} {s : Stamp} (h : ofInstant? n = some s) :
    s.instant = n ∧ s.offset = .zero := by
  simp only [ofInstant?, Option.bind_eq_bind, Option.bind_eq_some_iff, Option.pure_def,
    Option.some.injEq] at h
  obtain ⟨d, hdate, c, hclock, rfl⟩ := h
  obtain ⟨hhour, hminute, hsecond, hmicro⟩ := Clock.ofParts?_eq_some hclock
  refine ⟨?_, rfl⟩
  rw [instant, Date.number_ofNumber? hdate, Clock.micros, hhour, hminute, hsecond, hmicro]
  simp only [UtcOffset.zero, dayMicros]
  omega

/-- Every instant of the days of the calendar has a stamp. -/
theorem Stamp.exists_ofInstant? {n : Nat} (hfirst : dayMicros ≤ n) (hlast : n < 3652060 * dayMicros) :
    ∃ s, ofInstant? n = some s := by
  unfold dayMicros at hfirst hlast
  obtain ⟨d, hd⟩ : ∃ d : Date, d.number = n / dayMicros := by
    unfold dayMicros
    exact Date.exists_number (by omega) (by omega)
  have hhour : n % dayMicros / 3600000000 < 24 := by unfold dayMicros; omega
  have hminute : n % dayMicros / 60000000 % 60 < 60 := Nat.mod_lt _ (by decide)
  have hsecond : n % dayMicros / 1000000 % 60 < 60 := Nat.mod_lt _ (by decide)
  simp [ofInstant?, ← hd, Date.ofNumber?_number, Clock.ofParts?, Clock.ofParts, hhour, hminute, hsecond,
    Except.toOption]

namespace Zone

variable {z : Zone}

/-- What the clocks show at a second is a stamp of that second. -/
theorem stampAt?_eq_some {second : Int} {micro : Nat} {s : Stamp} (h : z.stampAt? second micro = some s) :
    s.instant = second * 1000000 + micro ∧ s.offset = z.offset second := by
  simp only [stampAt?, Option.bind_eq_bind, Option.bind_eq_some_iff, Option.pure_def,
    Option.some.injEq] at h
  obtain ⟨-, -, shown, hshown, rfl⟩ := h
  obtain ⟨hinstant, hoffset⟩ := Stamp.instant_ofInstant? hshown
  have hpos := shown.date.number_pos
  refine ⟨?_, rfl⟩
  simp only [Stamp.instant, hoffset, UtcOffset.zero, dayMicros] at hinstant
  simp only [Stamp.instant, offset, dayMicros]
  omega

/-- The stamp of a local time is a point in time, at which the clocks are as far ahead as it says. -/
theorem stamp_eq_ok {d : Date} {c : Clock} {s : Stamp} (h : z.stamp d c = .ok s) :
    ∃ second, s.instant = second * 1000000 + c.micro ∧ s.offset = z.offset second := by
  simp only [stamp, bind, Except.bind] at h
  split at h
  · cases h
  · split at h
    · rename_i hat
      cases h
      exact ⟨_, stampAt?_eq_some hat⟩
    · cases h

theorem stamp_eq_error {d : Date} {c : Clock} {fault : ZoneFault}
    (h : z.moment (d.number * 86400 + c.micros / 1000000) = .error fault) : z.stamp d c = .error fault := by
  simp only [stamp, h, bind, Except.bind]

theorem shown_eq_ok {second ahead : Int} (hahead : z.ahead second = ahead) (hfirst : 86400 ≤ second + ahead)
    (hlast : second + ahead < 3652060 * 86400) : z.shown second = .ok (second + ahead) := by
  simp only [shown, hahead]
  rw [if_neg (by omega), if_neg (by omega)]

/-- The clocks are as far ahead at all seconds less than two days before or after one. -/
def Steady (z : Zone) (time ahead : Int) : Prop :=
  ∀ second : Int, (second - time).natAbs < 2 * 86400 → z.ahead second = ahead

section steady

variable {time ahead : Int}

theorem Steady.natAbs_lt (h : z.Steady time ahead) : ahead.natAbs < 86400 := by
  rw [← h time (by omega)]
  exact z.lt_day time

theorem Steady.moment_eq (h : z.Steady time ahead) (hday : 2 * 86400 ≤ time) (hend : time < 3652060 * 86400)
    (hlast : time + ahead < 3652060 * 86400) : z.moment time = .ok (time - ahead) := by
  have hlt := h.natAbs_lt
  have hown := shown_eq_ok (h time (by omega)) (by omega) hlast
  have hshown := shown_eq_ok (h (time - ahead) (by omega)) (by omega) (by omega)
  have hyesterday := shown_eq_ok (h (time - ahead - 86400) (by omega)) (by omega) (by omega)
  have hoffset : time + ahead - time = ahead := by omega
  have hreading : time - ahead + ahead = time := by omega
  have hbefore : time - ahead - 86400 + ahead - (time - ahead - 86400) = ahead := by omega
  simp only [moment, hown, bind, Except.bind, hoffset, hshown, hreading, if_true, hyesterday, hbefore]
  rfl

theorem offset_congr {first second : Int} (h : z.ahead first = z.ahead second) :
    z.offset first = z.offset second := by
  simp only [offset, h]

theorem Steady.stampAt?_eq {d : Date} {c : Clock} (h : z.Steady time ahead)
    (htime : time = d.number * 86400 + c.micros / 1000000) (hfirst : 86400 ≤ time - ahead)
    (hlast : time - ahead < 3652060 * 86400) :
    z.stampAt? (time - ahead) c.micro = some ⟨d, c, z.offset time⟩ := by
  have hlt := h.natAbs_lt
  have hahead := h (time - ahead) (by omega)
  have hmicro : c.micros % 1000000 = c.micro := by
    have := c.micro_lt
    unfold Clock.micros
    omega
  obtain ⟨moment, hmoment⟩ : ∃ s, Stamp.ofInstant? ((time - ahead) * 1000000).toNat = some s :=
    Stamp.exists_ofInstant? (by unfold dayMicros; omega) (by unfold dayMicros; omega)
  have hreading : ((time - ahead + ahead) * 1000000 + c.micro).toNat = d.number * dayMicros + c.micros := by
    unfold dayMicros
    omega
  simp only [stampAt?, hmoment, hahead, hreading, Stamp.ofInstant?_self]
  rw [offset_congr (hahead.trans (h time (by omega)).symm)]
  rfl

/-- Where the clocks are steady, a local time stands for the point in time at which they show it. -/
theorem Steady.stamp_eq {d : Date} {c : Clock} (htime : time = d.number * 86400 + c.micros / 1000000)
    (h : z.Steady time ahead) (hfirst : 1 < d.number) (hlast : ahead = 0 ∨ d.number < 3652059) :
    z.stamp d c = .ok ⟨d, c, z.offset time⟩ := by
  have hlt := h.natAbs_lt
  have hclock := c.micros_lt
  have hnumber := d.number_le
  unfold dayMicros at hclock
  have hmoment := h.moment_eq (by omega) (by omega) (by omega)
  have hat := h.stampAt?_eq htime (by omega) (by omega)
  simp only [stamp, ← htime, hmoment, bind, Except.bind, h (time - ahead) (by omega), hat]
  rfl

theorem steady_universal (time : Int) : universal.Steady time 0 := fun _ _ => rfl

theorem moment_universal_firstDay (hfirst : 86400 ≤ time) (hsecond : time < 2 * 86400) :
    universal.moment time = .error (.noYear 0) := by
  have h := steady_universal time
  have hown := shown_eq_ok (h time (by omega)) (by omega) (by omega)
  have hyesterday : universal.shown (time - 86400) = .error (.noYear 0) := by
    simp only [shown, h (time - 86400) (by omega)]
    exact if_pos (by omega)
  simp only [Int.add_zero] at hown
  simp [moment, hown, hyesterday, bind, Except.bind]

/-- Where clocks show universal time, a local time stands for itself, except on the first day: to place it
the clocks are read a day before, in no year. -/
theorem stamp_universal (d : Date) (c : Clock) :
    universal.stamp d c = if d.number = 1 then .error (.noYear 0) else .ok ⟨d, c, .zero⟩ := by
  split_ifs with hfirst
  · have hclock := c.micros_lt
    unfold dayMicros at hclock
    have hmoment : universal.moment (d.number * 86400 + c.micros / 1000000) = .error (.noYear 0) :=
      moment_universal_firstDay (by omega) (by omega)
    exact stamp_eq_error hmoment
  · have hpos := d.number_pos
    rw [(steady_universal _).stamp_eq rfl (by omega) (.inl rfl)]
    rfl

end steady

end Zone

namespace Command

/-- A time without an offset is itself by universal time, unless it is of the first day. -/
theorem readTime_local {t : Text} {iso : Time.IsoTime} (h : Time.readIso? t = some iso)
    (hlocal : iso.offset = none) :
    readTime t = if iso.date.number = 1 then .error .firstDay else .ok ⟨iso.date, iso.clock, .zero⟩ := by
  simp only [readTime, readTimeIn, h, hlocal, Zone.stamp_universal]
  split_ifs <;> rfl

end Command

end AgendaLinks
