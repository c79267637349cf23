import AgendaLinks.Text.Casing
import Mathlib.Data.List.Basic

/-!
Small letters below code point 128. There the small form of a text is that of its characters one by one,
and it is its own small form. A name of small letters is the small form of its spellings with some letters
as capitals and of no other text; only a name with a k has others, with the sign for kelvin in its place.
-/

namespace AgendaLinks.Text

theorem toNat_ofNat {n : Nat} (h : n < 0xd800) : (Char.ofNat n).toNat = n := by
  rw [Char.ofNat, dif_pos (Or.inl h)]
  rfl

theorem smallChar_of_capital {c : Char} (hlow : 65 ≤ c.toNat) (hhigh : c.toNat ≤ 90) :
    (smallChar c).toNat = c.toNat + 32 := by
  have hsmall : c.toNat < 128 := by
    omega
  rw [smallChar, if_pos hsmall, if_pos (by simp [hlow, hhigh]), toNat_ofNat (by omega)]

theorem smallChar_of_not_capital {c : Char} (hascii : c.toNat < 128)
    (hcapital : ¬(65 ≤ c.toNat ∧ c.toNat ≤ 90)) : smallChar c = c := by
  rw [smallChar, if_pos hascii, if_neg (by simpa using hcapital)]

theorem smallChar_smallChar {c : Char} (hascii : c.toNat < 128) :
    smallChar (smallChar c) = smallChar c := by
  by_cases hcapital : 65 ≤ c.toNat ∧ c.toNat ≤ 90
  · have hsmall := smallChar_of_capital hcapital.1 hcapital.2
    exact smallChar_of_not_capital (by omega) (by omega)
  · rw [smallChar_of_not_capital hascii hcapital, smallChar_of_not_capital hascii hcapital]

theorem lowerAfter_of_ascii (before : Text) {t : Text} (h : ∀ c ∈ t, c.toNat < 128) :
    lowerAfter before t = t.map smallChar := by
  induction t generalizing before with
  | nil => rfl
  | cons c t ih =>
      have hc := h c List.mem_cons_self
      have hsigma : c ≠ 'Σ' := by
        rintro rfl
        exact absurd hc (by decide)
      have hdotted : c ≠ 'İ' := by
        rintro rfl
        exact absurd hc (by decide)
      rw [lowerAfter, smallAt, if_neg hsigma, if_neg hdotted,
        ih _ fun d hd => h d (List.mem_cons_of_mem _ hd), List.map_cons, List.singleton_append]

theorem lower_of_ascii {t : Text} (h : ∀ c ∈ t, c.toNat < 128) : lower t = t.map smallChar :=
  lowerAfter_of_ascii [] h

/-- The characters of a small form are those of the text and small letters. -/
theorem mem_lower_of_ascii {t : Text} (h : ∀ c ∈ t, c.toNat < 128) {c : Char} (hc : c ∈ lower t) :
    c ∈ t ∨ (97 ≤ c.toNat ∧ c.toNat ≤ 122) := by
  rw [lower_of_ascii h] at hc
  obtain ⟨d, hd, rfl⟩ := List.mem_map.1 hc
  by_cases hcapital : 65 ≤ d.toNat ∧ d.toNat ≤ 90
  · have hsmall := smallChar_of_capital hcapital.1 hcapital.2
    exact Or.inr (by omega)
  · rw [smallChar_of_not_capital (h d hd) hcapital]
    exact Or.inl hd

theorem ascii_lower {t : Text} (h : ∀ c ∈ t, c.toNat < 128) : ∀ c ∈ lower t, c.toNat < 128 := by
  intro c hc
  rcases mem_lower_of_ascii h hc with hmem | hletter
  · exact h c hmem
  · omega

theorem lower_lower {t : Text} (h : ∀ c ∈ t, c.toNat < 128) : lower (lower t) = lower t := by
  rw [lower_of_ascii (ascii_lower h), lower_of_ascii h, List.map_map]
  exact List.map_congr_left fun c hc => smallChar_smallChar (h c hc)

theorem toNat_toLower (c : Char) :
    c.toLower.toNat = if 65 ≤ c.toNat ∧ c.toNat ≤ 90 then c.toNat + 32 else c.toNat := by
  have hcapital : (c.val ≥ 'A'.val ∧ c.val ≤ 'Z'.val) ↔ 65 ≤ c.toNat ∧ c.toNat ≤ 90 := Iff.rfl
  unfold Char.toLower
  split_ifs with h hplace hplace
  · show (c.val + 32).toNat = c.toNat + 32
    rw [UInt32.toNat_add]
    exact Nat.mod_eq_of_lt (by change c.toNat + 32 < 2 ^ 32; omega)
  · exact absurd (hcapital.1 h) hplace
  · exact absurd (hcapital.2 hplace) h
  · rfl

theorem smallChar_eq_toLower {c : Char} (h : c.toNat < 128) : smallChar c = c.toLower := by
  rw [← Char.toNat_inj, toNat_toLower]
  split_ifs with hcapital
  · exact smallChar_of_capital hcapital.1 hcapital.2
  · rw [smallChar_of_not_capital h hcapital]

/-- Letters that are the small form of themselves and of their capitals, and of no other character. -/
def IsSmallLetter (c : Char) : Prop := 97 ≤ c.toNat ∧ c.toNat ≤ 122 ∧ c ≠ 'k'

instance (c : Char) : Decidable (IsSmallLetter c) := inferInstanceAs (Decidable (_ ∧ _ ∧ _))

theorem ascii_of_isSmallLetter_toLower {c : Char} (h : IsSmallLetter c.toLower) : c.toNat < 128 := by
  obtain ⟨-, hhigh, -⟩ := h
  rw [toNat_toLower] at hhigh
  split_ifs at hhigh <;> omega

theorem smallAt_eq {before after : Text} {c : Char} (h : ∀ d ∈ smallAt before c after, IsSmallLetter d) :
    smallAt before c after = [c.toLower] := by
  unfold smallAt at h ⊢
  split_ifs at h ⊢ with hsigma hfinal hdotted
  · exact absurd (h 'ς' List.mem_cons_self) (by decide)
  · exact absurd (h 'σ' List.mem_cons_self) (by decide)
  · exact absurd (h '\u0307' (by simp)) (by decide)
  · have hletter := h (smallChar c) List.mem_cons_self
    obtain ⟨-, hhigh, hk⟩ := hletter
    rcases of_smallChar_lt (c := c) (by omega) with hascii | hi | hkelvin
    · rw [smallChar_eq_toLower hascii]
    · exact absurd (Char.toNat_inj.1 hi) hdotted
    · have hc : c = '\u212a' := Char.toNat_inj.1 hkelvin
      rw [hc] at hk
      exact absurd (by decide +kernel) hk

theorem lowerAfter_eq_map_toLower {before t : Text}
    (h : ∀ c ∈ lowerAfter before t, IsSmallLetter c) : lowerAfter before t = t.map Char.toLower := by
  induction t generalizing before with
  | nil => rfl
  | cons c t ih =>
      rw [lowerAfter] at h ⊢
      obtain ⟨hfirst, hrest⟩ := List.forall_mem_append.1 h
      rw [smallAt_eq hfirst, ih hrest, List.map_cons, List.singleton_append]

/-- A text has a name as its small form exactly if it spells the name, capitals or not. -/
theorem lower_eq_iff {name t : Text} (hname : ∀ c ∈ name, IsSmallLetter c) :
    lower t = name ↔ t.map Char.toLower = name := by
  constructor
  · rintro rfl
    exact (lowerAfter_eq_map_toLower hname).symm
  · rintro rfl
    rw [List.forall_mem_map] at hname
    have hascii : ∀ c ∈ t, c.toNat < 128 := fun c hc => ascii_of_isSmallLetter_toLower (hname c hc)
    rw [lower_of_ascii hascii]
    exact List.map_congr_left fun c hc => smallChar_eq_toLower (hascii c hc)

end AgendaLinks.Text
