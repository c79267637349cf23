import AgendaLinks.Proofs.Text.Cuts
import Mathlib.Data.Nat.Init

/-!
Numbers in decimal digits. A number that is padded to a width has its last digit at the end and the
others, padded to one less, before it. So it takes up the width if it is small enough for it, and its
digits tell it again.
-/

namespace AgendaLinks.Text

theorem toNat_of_isDigit {c : Char} (h : c.isDigit = true) : 48 ≤ c.toNat ∧ c.toNat ≤ 57 := by
  simpa [Char.isDigit, UInt32.le_iff_toNat_le] using h

theorem not_isBlank_of_isDigit {c : Char} (h : c.isDigit = true) : isBlank c = false := by
  have hrange := toNat_of_isDigit h
  rw [isBlank, if_pos (by omega)]
  simp only [Bool.or_eq_false_iff, Bool.and_eq_false_iff, decide_eq_false_iff_not]
  omega

theorem digitValue?_of_isDigit {c : Char} (h : c.isDigit = true) :
    digitValue? c = some (c.toNat - 48) := by
  have hrange := toNat_of_isDigit h
  rw [digitValue?, if_pos (by omega), if_pos (by simpa using hrange)]

theorem isDecimal_of_isDigit {c : Char} (h : c.isDigit = true) : isDecimal c = true := by
  rw [isDecimal, digitValue?_of_isDigit h]
  rfl

theorem isDigit_digitChar {d : Nat} (h : d < 10) : d.digitChar.isDigit = true := by
  rw [Nat.isDigit_digitChar]
  exact decide_eq_true h

theorem digitValue?_digitChar {d : Nat} (h : d < 10) : digitValue? d.digitChar = some d := by
  rw [digitValue?_of_isDigit (isDigit_digitChar h), Nat.toNat_digitChar_of_lt_ten h,
    Nat.add_sub_cancel_left]

theorem ofNat_of_lt {n : Nat} (h : n < 10) : ofNat n = [n.digitChar] := Nat.toDigits_of_lt_base h

theorem ofNat_of_le {n : Nat} (h : 10 ≤ n) : ofNat n = ofNat (n / 10) ++ [(n % 10).digitChar] :=
  Nat.toDigits_of_base_le (by decide) h

theorem isDigit_of_mem_ofNat {n : Nat} : ∀ c ∈ ofNat n, c.isDigit = true :=
  fun _ => Nat.isDigit_of_mem_toDigits (by decide) (by decide)

theorem isDigit_of_mem_padded {w n : Nat} : ∀ c ∈ padded w n, c.isDigit = true := by
  intro c hc
  rcases List.mem_append.1 hc with hzero | hdigit
  · rw [List.eq_of_mem_replicate hzero]
    rfl
  · exact isDigit_of_mem_ofNat c hdigit

theorem padded_one {n : Nat} (h : n < 10) : padded 1 n = [n.digitChar] := by
  rw [padded, ofNat_of_lt h]
  rfl

theorem padded_succ {w : Nat} (hw : 1 ≤ w) (n : Nat) :
    padded (w + 1) n = padded w (n / 10) ++ [(n % 10).digitChar] := by
  by_cases hn : n < 10
  · -- one digit, and a zero more before it
    have hzeros : List.replicate w '0' = List.replicate (w - 1) '0' ++ ['0'] := by
      rw [← List.replicate_succ', Nat.sub_add_cancel hw]
    rw [Nat.div_eq_of_lt hn, Nat.mod_eq_of_lt hn, padded, padded, ofNat_of_lt hn,
      ofNat_of_lt (by decide)]
    simp only [List.length_singleton, Nat.add_sub_cancel, hzeros]
    rfl
  · rw [padded, padded, ofNat_of_le (Nat.not_lt.1 hn), List.length_append, List.length_singleton,
      Nat.add_sub_add_right, List.append_assoc]

theorem padded_two {n : Nat} (h : n < 100) :
    padded 2 n = [(n / 10).digitChar, (n % 10).digitChar] := by
  rw [padded_succ (Nat.le_refl 1), padded_one (by omega)]
  rfl

theorem ofNat_four {n : Nat} (h : 1000 ≤ n) (h' : n ≤ 9999) :
    ofNat n = [(n / 10 / 10 / 10).digitChar, (n / 10 / 10 % 10).digitChar, (n / 10 % 10).digitChar,
      (n % 10).digitChar] := by
  rw [ofNat_of_le (by omega), ofNat_of_le (by omega), ofNat_of_le (by omega), ofNat_of_lt (by omega)]
  rfl

theorem length_padded {w n : Nat} (hw : 1 ≤ w) (h : n < 10 ^ w) : (padded w n).length = w := by
  induction w, hw using Nat.le_induction generalizing n with
  | base => rw [padded_one (by simpa using h), List.length_singleton]
  | succ w hw ih =>
      have hfront : n / 10 < 10 ^ w := by
        rw [Nat.pow_succ] at h
        omega
      rw [padded_succ hw, List.length_append, ih hfront, List.length_singleton]

/-- The digits of a number are read one after the other. -/
theorem foldlM_padded {w n : Nat} (hw : 1 ≤ w) (h : n < 10 ^ w) :
    (padded w n).foldlM (fun n c => do return n * 10 + (← digitValue? c)) 0 = some n := by
  induction w, hw using Nat.le_induction generalizing n with
  | base =>
      have hn : n < 10 := by simpa using h
      rw [padded_one hn, List.foldlM_cons, digitValue?_digitChar hn]
      simp
  | succ w hw ih =>
      have hfront : n / 10 < 10 ^ w := by
        rw [Nat.pow_succ] at h
        omega
      rw [padded_succ hw, List.foldlM_append, ih hfront]
      simp only [List.foldlM_cons, List.foldlM_nil, Option.bind_eq_bind, Option.bind_some,
        digitValue?_digitChar (Nat.mod_lt n (by decide : 10 > 0)), Option.pure_def,
        Option.some.injEq]
      omega

end AgendaLinks.Text
