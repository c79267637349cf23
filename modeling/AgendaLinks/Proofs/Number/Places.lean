import AgendaLinks.Number.Places
import AgendaLinks.Proofs.Text.Digits

/-!
Numbers with a chosen number of digits after the point. The digits are those of the nearest number that has no
more of them, and of two equally near ones those of the even one.
-/

namespace AgendaLinks.Double

/-- No whole number is nearer to a quotient, and an equally near one is not even. -/
structure IsNearest (q num den : Nat) : Prop where
  le : 2 * (den * q) ≤ 2 * num + den
  ge : 2 * num ≤ 2 * (den * q) + den
  even : 2 * (den * q) = 2 * num + den ∨ 2 * num = 2 * (den * q) + den → q % 2 = 0

theorem isNearest_roundQuotient (num : Nat) {den : Nat} (hden : 0 < den) :
    IsNearest (roundQuotient num den) num den := by
  have hsplit := Nat.div_add_mod num den
  have hrest := Nat.mod_lt num hden
  have hnext : den * (num / den + 1) = den * (num / den) + den := Nat.mul_succ _ _
  rw [roundQuotient]
  split_ifs with hless hmore heven
  · exact ⟨by omega, by omega, by omega⟩
  · exact ⟨by omega, by omega, by omega⟩
  · exact ⟨by omega, by omega, fun _ => heven⟩
  · exact ⟨by omega, by omega, by omega⟩

variable {q q' num den : Nat}

theorem IsNearest.le_of_isNearest (hden : 0 < den) (h : IsNearest q num den)
    (h' : IsNearest q' num den) : q' ≤ q := by
  by_contra hlt
  obtain ⟨k, rfl⟩ : ∃ k, q' = q + 1 + k := ⟨q' - (q + 1), by omega⟩
  have hsplit : den * (q + 1 + k) = den * q + den + den * k := by
    rw [Nat.mul_add, Nat.mul_add, Nat.mul_one]
  have hle := h'.le
  have hge := h.ge
  -- both are a half away, and one of two neighbours is odd
  have hk : den * k = 0 := by omega
  have hzero : k = 0 := (Nat.mul_eq_zero.1 hk).resolve_left (by omega)
  have heven := h.even (Or.inr (by omega))
  have heven' := h'.even (Or.inl (by omega))
  omega

/-- A quotient has one nearest whole number. -/
theorem IsNearest.unique (hden : 0 < den) (h : IsNearest q num den) (h' : IsNearest q' num den) :
    q = q' :=
  Nat.le_antisymm (h'.le_of_isNearest hden h) (h.le_of_isNearest hden h')

theorem le_length_padded (w n : Nat) : w ≤ (Text.padded w n).length := by
  rw [Text.padded, List.length_append, List.length_replicate]
  omega

/-- Before the point there is a digit, and after it there are as many as were asked for. -/
theorem exists_pointed (places : Nat) (point : Bool) (digits : Nat) :
    ∃ whole part, whole ++ part = Text.padded (places + 1) digits ∧ whole ≠ [] ∧
      part.length = places ∧ pointed places point digits =
        whole ++ (if places = 0 ∧ point = false then [] else ['.']) ++ part := by
  have hlength := le_length_padded (places + 1) digits
  refine ⟨_, _, List.take_append_drop ((Text.padded (places + 1) digits).length - places) _, ?_, ?_, ?_⟩
  · rw [← List.length_pos_iff, List.length_take]
    omega
  · rw [List.length_drop]
    omega
  · cases places with
    | zero =>
        rw [pointed, if_pos rfl, Nat.sub_zero, List.drop_length, List.append_nil]
        cases point
        · exact (List.append_nil _).symm
        · rfl
    | succ n =>
        rw [pointed, if_neg (Nat.succ_ne_zero n), if_neg fun h => Nat.succ_ne_zero n h.1,
          List.append_assoc]
        rfl

/-- A number with so many digits after the point is written with the digits of the whole number nearest to it
times as many tens. -/
theorem written_fixed (places : Nat) (full negative : Bool) (mantissa : Nat) (exponent : Int) :
    ∃ q whole part,
      IsNearest q (mantissa * 2 ^ exponent.toNat * 10 ^ places) (2 ^ (-exponent).toNat) ∧
      whole ++ part = Text.padded (places + 1) q ∧ whole ≠ [] ∧ part.length = places ∧
      (finite negative mantissa exponent).written .fixed places full =
        (if negative then ['-'] else []) ++ whole ++
          (if places = 0 ∧ full = false then [] else ['.']) ++ part := by
  obtain ⟨whole, part, hdigits, hwhole, hpart, hpointed⟩ := exists_pointed places full
    (roundQuotient (mantissa * 2 ^ exponent.toNat * 10 ^ places) (2 ^ (-exponent).toNat))
  refine ⟨_, whole, part, isNearest_roundQuotient _ (Nat.two_pow_pos _), hdigits, hwhole, hpart, ?_⟩
  have hfixed : fixedSize places full mantissa exponent =
      whole ++ (if places = 0 ∧ full = false then [] else ['.']) ++ part := hpointed
  rw [written]
  simp only [hfixed]
  cases negative
  · rfl
  · rfl

end AgendaLinks.Double
