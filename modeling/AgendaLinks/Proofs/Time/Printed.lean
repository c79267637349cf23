import AgendaLinks.Proofs.Text.Digits
import AgendaLinks.Proofs.Time.Days
import AgendaLinks.Time.Reader
import Mathlib.Tactic.IntervalCases

/-!
Dates and points in time are read back from their texts. Each number is printed in the digits that its
reader takes for it, and a mark stands between two numbers; in an offset, where no mark stands, the numbers
have two digits each, and seconds and their fraction are there only when they are not zero.
-/

namespace AgendaLinks

theorem Date.month_lt (d : Date) : d.month < 100 := by
  have := d.month_mem
  omega

theorem Date.day_lt (d : Date) : d.day < 100 := by
  have := d.day_mem.2.trans (Date.daysInMonth_le d.year d.month)
  omega

theorem Clock.ofParts?_self (c : Clock) : ofParts? c.hour c.minute c.second c.micro = some c := by
  obtain ⟨hour, minute, second, micro, hhour, hminute, hsecond, hmicro⟩ := c
  rw [ofParts?, ofParts, dif_pos hhour, dif_pos hminute, dif_pos hsecond]
  simp only [Nat.mod_eq_of_lt hmicro]
  rfl

theorem Clock.ofParts?_eq_some {hour minute second micro : Nat} {c : Clock}
    (h : ofParts? hour minute second micro = some c) :
    c.hour = hour ∧ c.minute = minute ∧ c.second = second ∧ c.micro = micro % 1000000 := by
  unfold ofParts? ofParts at h
  split_ifs at h
  all_goals cases h
  exact ⟨rfl, rfl, rfl, rfl⟩

theorem UtcOffset.ofMicros?_self (o : UtcOffset) : UtcOffset.ofMicros? o.micros = some o := by
  rw [UtcOffset.ofMicros?, dif_pos o.lt_day]

namespace Time

open Text

section

variable {n : Nat}

theorem ascii?_digitChar {d : Nat} (h : d < 10) : ascii? d.digitChar = some d := by
  rw [ascii?, if_pos (isDigit_digitChar h), Nat.toNat_digitChar_of_lt_ten h, Nat.add_sub_cancel_left]

theorem ofTens?_digitChar (full : Nat) (h : n < 100) :
    ofTens? full (n / 10).digitChar (n % 10).digitChar = some n := by
  have hones : n % 10 < 10 := Nat.mod_lt n (by decide)
  rw [ofTens?, ascii?_digitChar (by omega), digitValue?_digitChar hones, isDigit_digitChar hones]
  simp [Nat.div_add_mod]

theorem month?_padded (h : n < 100) : month? (padded 2 n) = some n := by
  rw [padded_two h, month?, ascii?_digitChar (by omega), ascii?_digitChar (by omega)]
  simp [Nat.div_add_mod]

theorem day?_padded (h : n < 100) : day? (padded 2 n) = some n := by
  rw [padded_two h, day?, ofTens?_digitChar 2 h, isDigit_digitChar (by omega)]
  simp

theorem hour?_padded (h : n < 100) : hour? (padded 2 n) = some n := by
  rw [padded_two h]
  exact ofTens?_digitChar 1 h

theorem minute?_padded (h : n < 100) : minute? (padded 2 n) = some n := by
  rw [padded_two h]
  exact ofTens?_digitChar 5 h

theorem year?_ofNat (h : 1000 ≤ n) (h' : n ≤ 9999) : year? (ofNat n) = some n := by
  rw [ofNat_four h h', year?, digitValue?_digitChar (by omega), digitValue?_digitChar (by omega),
    digitValue?_digitChar (by omega), digitValue?_digitChar (by omega)]
  simp only [Option.bind_eq_bind, Option.bind_some, Option.pure_def, Option.some.injEq]
  omega

theorem two?_digitChar (h : n < 100) : two? (n / 10).digitChar (n % 10).digitChar = some n := by
  rw [two?, digitValue?_digitChar (by omega), digitValue?_digitChar (by omega)]
  simp [Nat.div_add_mod]

theorem underSixty?_digitChar (h : n < 60) :
    underSixty? (n / 10).digitChar (n % 10).digitChar = some n := by
  have htens : '0' ≤ (n / 10).digitChar ∧ (n / 10).digitChar ≤ '5' := by
    have : n / 10 < 6 := by omega
    interval_cases n / 10 <;> decide
  rw [underSixty?, two?_digitChar (by omega)]
  simp [htens]

end

theorem not_isDecimal_head {mark : Char} (h : isDecimal mark = false) (t : Text) :
    ∀ c ∈ (mark :: t).head?, isDecimal c = false := by
  rintro c ⟨⟩
  exact h

/-- Digits up to a mark. -/
theorem span_isDecimal {t rest : Text} (ht : ∀ c ∈ t, c.isDigit = true)
    (hrest : ∀ c ∈ rest.head?, isDecimal c = false) : (t ++ rest).span isDecimal = (t, rest) :=
  span_append (fun c hc => isDecimal_of_isDigit (ht c hc)) hrest

theorem dateThen?_text {d : Date} (hyear : 1000 ≤ d.year) {rest : Text}
    (hrest : ∀ c ∈ rest.head?, isDecimal c = false) :
    dateThen? (d.text ++ rest) = some (d, rest) := by
  have hform : d.text ++ rest = ofNat d.year ++ ('-' :: (padded 2 d.month ++
      ('-' :: (padded 2 d.day ++ rest)))) := by simp [Date.text]
  rw [hform, dateThen?, span_isDecimal isDigit_of_mem_ofNat (not_isDecimal_head (by decide) _)]
  simp only [after?, if_true, Option.bind_eq_bind, Option.bind_some]
  rw [span_isDecimal isDigit_of_mem_padded (not_isDecimal_head (by decide) _)]
  simp only [after?, if_true, Option.bind_some]
  rw [span_isDecimal isDigit_of_mem_padded hrest]
  simp only [year?_ofNat hyear d.year_mem.2, month?_padded d.month_lt, day?_padded d.day_lt,
    Option.bind_some, d.ofParts?_self, Option.pure_def]

theorem clockThen?_text {c : Clock} (hmicro : c.micro = 0) {rest : Text}
    (hrest : ∀ c ∈ rest.head?, isDecimal c = false) :
    clockThen? (c.text ++ rest) = some (c, rest) := by
  have hform : c.text ++ rest = padded 2 c.hour ++ (':' :: (padded 2 c.minute ++
      (':' :: (padded 2 c.second ++ rest)))) := by simp [Clock.text]
  have hhour : c.hour < 100 := c.hour_lt.trans (by decide)
  have hminute : c.minute < 100 := c.minute_lt.trans (by decide)
  have hsecond : c.second < 100 := c.second_lt.trans (by decide)
  have hself := c.ofParts?_self
  rw [hmicro] at hself
  rw [hform, clockThen?, span_isDecimal isDigit_of_mem_padded (not_isDecimal_head (by decide) _)]
  simp only [after?, if_true, Option.bind_eq_bind, Option.bind_some]
  rw [span_isDecimal isDigit_of_mem_padded (not_isDecimal_head (by decide) _)]
  simp only [span_isDecimal isDigit_of_mem_padded hrest, hour?_padded hhour,
    minute?_padded hminute, minute?_padded hsecond, Option.bind_some, hself,
    Option.pure_def]

theorem micros?_padded {n : Nat} (h : n < 1000000) : micros? ('.' :: padded 6 n) = some n := by
  have hwidth : (padded 6 n).length = 6 := length_padded (by decide) h
  rw [micros?, hwidth, foldlM_padded (by decide) h]
  simp

/-- The seconds of an offset are printed when they or their fraction are not zero. -/
theorem offsetSeconds?_text {second micro : Nat} (hsecond : second < 60) (hmicro : micro < 1000000) :
    offsetSeconds? ((if second = 0 ∧ micro = 0 then [] else padded 2 second) ++
      if micro = 0 then [] else '.' :: padded 6 micro) = some (second, micro) := by
  by_cases hfraction : micro = 0
  · by_cases hnone : second = 0
    · rw [hfraction, hnone]
      rfl
    · rw [if_neg fun h => hnone h.1, if_pos hfraction, padded_two (by omega), List.append_nil,
        offsetSeconds?, underSixty?_digitChar hsecond, hfraction]
      rfl
  · rw [if_neg fun h => hfraction h.2, if_neg hfraction, padded_two (by omega), List.cons_append,
      List.cons_append, List.nil_append, offsetSeconds?, underSixty?_digitChar hsecond,
      micros?_padded hmicro]
    rfl

/-- Without colons, four digits are hours and minutes. -/
theorem offsetParts?_text {hour minute : Nat} (hhour : hour < 100) (hminute : minute < 60)
    {rest : Text} {second micro : Nat} (hrest : offsetSeconds? rest = some (second, micro)) :
    offsetParts? (padded 2 hour ++ padded 2 minute ++ rest) = some (hour, minute, second, micro) := by
  have hcolon : (minute / 10).digitChar ≠ ':' := by
    intro h
    have := isDigit_digitChar (d := minute / 10) (by omega)
    rw [h] at this
    exact absurd this (by decide)
  rw [padded_two hhour, padded_two (by omega)]
  show offsetParts? (_ :: _ :: _ :: _ :: rest) = _
  rw [offsetParts?]
  · rw [hrest, two?_digitChar hhour, underSixty?_digitChar hminute]
    rfl
  · exact fun _ _ h _ => hcolon h

theorem readOffset?_cons {sign : Char} (hsign : sign = '+' ∨ sign = '-') {parts : Text}
    {hour minute second micro : Nat} (h : offsetParts? parts = some (hour, minute, second, micro)) :
    readOffset? (sign :: parts) = UtcOffset.ofMicros?
      (if sign = '-' then -((((hour * 60 + minute) * 60 + second) * 1000000 + micro : Nat) : Int)
        else (((hour * 60 + minute) * 60 + second) * 1000000 + micro : Nat)) := by
  have hzero : sign :: parts ≠ ['Z'] := by
    rintro ⟨⟩
    rcases hsign with hplus | hminus <;> contradiction
  rw [readOffset?, if_neg hzero]
  simp [hsign, h]

/-- An offset is read back from its text, whichever fraction of a second it goes to. -/
theorem readOffset?_textWith (o : UtcOffset) : readOffset? (o.textWith []) = some o := by
  obtain ⟨size, hsize⟩ : ∃ size, size = o.micros.natAbs := ⟨_, rfl⟩
  have hday : size < 86400000000 := hsize ▸ o.lt_day
  have hhour : size / 1000000 / 3600 < 100 := by omega
  have hminute : size / 1000000 / 60 % 60 < 60 := by omega
  have hsecond : size / 1000000 % 60 < 60 := by omega
  have hmicro : size % 1000000 < 1000000 := by omega
  have hparts := offsetParts?_text hhour hminute (offsetSeconds?_text hsecond hmicro)
  have hwhole : ((size / 1000000 / 3600 * 60 + size / 1000000 / 60 % 60) * 60 +
      size / 1000000 % 60) * 1000000 + size % 1000000 = size := by omega
  have hform : o.textWith [] = (if o.micros < 0 then '-' else '+') ::
      (padded 2 (size / 1000000 / 3600) ++ padded 2 (size / 1000000 / 60 % 60) ++
        ((if size / 1000000 % 60 = 0 ∧ size % 1000000 = 0 then [] else
          padded 2 (size / 1000000 % 60)) ++
        if size % 1000000 = 0 then [] else '.' :: padded 6 (size % 1000000))) := by
    simp [UtcOffset.textWith, hsize]
  rw [hform]
  by_cases hneg : o.micros < 0
  · have hmicros : -(size : Int) = o.micros := by omega
    rw [if_pos hneg, readOffset?_cons (Or.inr rfl) hparts, if_pos rfl, hwhole, hmicros,
      o.ofMicros?_self]
  · have hmicros : (size : Int) = o.micros := by omega
    rw [if_neg hneg, readOffset?_cons (Or.inl rfl) hparts, if_neg (by decide), hwhole, hmicros,
      o.ofMicros?_self]

theorem dateThen?_self {d : Date} (hyear : 1000 ≤ d.year) : dateThen? d.text = some (d, []) := by
  have hend : ∀ c ∈ ([] : Text).head?, isDecimal c = false := nofun
  rw [← List.append_nil d.text, dateThen?_text hyear hend]

theorem readDate?_text {d : Date} (hyear : 1000 ≤ d.year) : readDate? d.text = some d := by
  rw [readDate?, dateThen?_self hyear]
  rfl

theorem readStamp?_dateText {d : Date} (hyear : 1000 ≤ d.year) : readStamp? d.text = none := by
  rw [readStamp?, dateThen?_self hyear]
  rfl

/-- An offset begins with its sign. -/
theorem not_isDecimal_head_textWith (o : UtcOffset) (separator : Text) :
    ∀ c ∈ (o.textWith separator).head?, isDecimal c = false := by
  rintro c ⟨⟩
  split_ifs <;> decide

theorem readStamp?_text {s : Stamp} (hyear : 1000 ≤ s.date.year) (hmicro : s.clock.micro = 0) :
    readStamp? s.text = some s := by
  have hform : s.text = s.date.text ++ ('T' :: (s.clock.text ++ s.offset.textWith [])) := by
    simp [Stamp.text]
  rw [readStamp?, hform, dateThen?_text hyear (not_isDecimal_head (by decide) _)]
  simp only [Option.bind_eq_bind, Option.bind_some, clockThen?_text hmicro
    (not_isDecimal_head_textWith s.offset []), readOffset?_textWith]
  rfl

end Time

open Text

theorem Date.text_eq {d : Date} (hyear : 1000 ≤ d.year) : d.text =
    [(d.year / 10 / 10 / 10).digitChar, (d.year / 10 / 10 % 10).digitChar,
      (d.year / 10 % 10).digitChar, (d.year % 10).digitChar, '-', (d.month / 10).digitChar,
      (d.month % 10).digitChar, '-', (d.day / 10).digitChar, (d.day % 10).digitChar] := by
  rw [Date.text, ofNat_four hyear d.year_mem.2, padded_two d.month_lt, padded_two d.day_lt]
  rfl

theorem Date.mem_text {d : Date} {c : Char} (hc : c ∈ d.text) : c.isDigit = true ∨ c = '-' := by
  simp only [Date.text, List.mem_append, List.mem_cons] at hc
  rcases hc with (hyear | hmark | hmonth) | hmark | hday
  · exact Or.inl (isDigit_of_mem_ofNat _ hyear)
  · exact Or.inr hmark
  · exact Or.inl (isDigit_of_mem_padded _ hmonth)
  · exact Or.inr hmark
  · exact Or.inl (isDigit_of_mem_padded _ hday)

theorem Clock.mem_text {c : Clock} {d : Char} (hd : d ∈ c.text) : d.isDigit = true ∨ d = ':' := by
  simp only [Clock.text, List.mem_append, List.mem_cons] at hd
  rcases hd with (hhour | hmark | hminute) | hmark | hsecond
  · exact Or.inl (isDigit_of_mem_padded _ hhour)
  · exact Or.inr hmark
  · exact Or.inl (isDigit_of_mem_padded _ hminute)
  · exact Or.inr hmark
  · exact Or.inl (isDigit_of_mem_padded _ hsecond)

theorem UtcOffset.mem_textWith {o : UtcOffset} {c : Char} (hc : c ∈ o.textWith []) :
    c.isDigit = true ∨ c ∈ ['+', '-', '.'] := by
  simp only [UtcOffset.textWith, List.append_nil, List.nil_append, List.mem_append,
    List.mem_cons] at hc
  rcases hc with (((hsign | hhour) | hminute) | hsecond) | hmicro
  · right
    split_ifs at hsign <;> simp [hsign]
  · exact Or.inl (isDigit_of_mem_padded _ hhour)
  · exact Or.inl (isDigit_of_mem_padded _ hminute)
  · split_ifs at hsecond
    · cases hsecond
    · exact Or.inl (isDigit_of_mem_padded _ hsecond)
  · split_ifs at hmicro
    · cases hmicro
    · rcases List.mem_cons.1 hmicro with hmark | hdigits
      · simp [hmark]
      · exact Or.inl (isDigit_of_mem_padded _ hdigits)

end AgendaLinks
