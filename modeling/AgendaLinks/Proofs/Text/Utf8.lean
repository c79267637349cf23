import AgendaLinks.Proofs.Fallible
import AgendaLinks.Text.Utf8
import Mathlib.Tactic.Common

/-!
Texts and their bytes. A character is written in one to four bytes, and these are read as the character
again whatever follows them, so a text is read back from its bytes, and bytes may as well be read in pieces.
-/

namespace AgendaLinks.Text

variable {n : Nat} (rest : List UInt8)

theorem toNat_byte (h : n < 256) : (UInt8.ofNat n).toNat = n := UInt8.toNat_ofNat_of_lt h

theorem byte_lt {m : UInt8} (h : n < 256) : UInt8.ofNat n < m ↔ n < m.toNat := by
  rw [UInt8.lt_iff_toNat_lt, toNat_byte h]

theorem le_byte {m : UInt8} (h : n < 256) : m ≤ UInt8.ofNat n ↔ m.toNat ≤ n := by
  rw [UInt8.le_iff_toNat_le, toNat_byte h]

theorem byte_eq {m : UInt8} (h : n < 256) : UInt8.ofNat n = m ↔ n = m.toNat := by
  rw [← UInt8.toNat_inj, toNat_byte h]

theorem continues_byte (h : n < 64) : continues (UInt8.ofNat (n + 128)) = true := by
  simp only [continues, Bool.and_eq_true, decide_eq_true_eq, byte_lt (n := n + 128) (by omega),
    le_byte (n := n + 128) (by omega), UInt8.reduceToNat]
  omega

theorem low_byte (h : n < 64) : low (UInt8.ofNat (n + 128)) = n := by
  rw [low, toNat_byte (by omega)]
  omega

/-- Two bytes fit each other if they write no more than a longer sequence has to, no surrogate, and nothing
beyond the last code point. -/
theorem fitsSecond_byte {m : Nat} (hn : n < 256) (hm : m < 64) (hshort : n = 0xe0 → 0x20 ≤ m)
    (hsurrogate : n = 0xed → m < 0x20) (hlong : n = 0xf0 → 0x10 ≤ m) (hlast : n = 0xf4 → m < 0x10) :
    fitsSecond (UInt8.ofNat n) (UInt8.ofNat (m + 128)) = true := by
  have hsecond : m + 128 < 256 := by omega
  simp only [fitsSecond, continues_byte hm, byte_eq hn, byte_lt hsecond, le_byte hsecond,
    UInt8.reduceToNat, Bool.true_and, Bool.and_eq_true, Bool.not_eq_true', Bool.and_eq_false_iff,
    decide_eq_false_iff_not]
  omega

theorem firstChar_one (h : n < 0x80) : firstChar (UInt8.ofNat n) rest = .ok (Char.ofNat n, 0) := by
  have hbyte : n < 256 := by omega
  simp only [firstChar, byte_lt hbyte, toNat_byte hbyte, UInt8.reduceToNat, if_pos h]

theorem firstChar_two (hlow : 0x80 ≤ n) (hhigh : n < 0x800) :
    firstChar (UInt8.ofNat (n / 64 % 32 + 192)) (UInt8.ofNat (n % 64 + 128) :: rest) =
      .ok (Char.ofNat n, 1) := by
  have hfirst : n / 64 % 32 + 192 < 256 := by omega
  have hfits := fitsSecond_byte hfirst (m := n % 64) (by omega) (by omega) (by omega) (by omega)
    (by omega)
  have hvalue : (n / 64 % 32 + 192) % 32 * 64 + n % 64 = n := by omega
  simp only [firstChar, byte_lt hfirst, le_byte hfirst, toNat_byte hfirst, hfits, hvalue,
    low_byte (n := n % 64) (by omega), UInt8.reduceToNat, Bool.not_true, Bool.or_eq_true,
    decide_eq_true_eq]
  rw [if_neg (by omega), if_neg (by omega), if_neg (by decide), if_pos (by omega)]

theorem firstChar_three (hlow : 0x800 ≤ n) (hhigh : n < 0x10000)
    (hsurrogate : n < 0xd800 ∨ 0xdfff < n) :
    firstChar (UInt8.ofNat (n / 4096 % 16 + 224))
      (UInt8.ofNat (n / 64 % 64 + 128) :: UInt8.ofNat (n % 64 + 128) :: rest) =
      .ok (Char.ofNat n, 2) := by
  have hfirst : n / 4096 % 16 + 224 < 256 := by omega
  have hfits := fitsSecond_byte hfirst (m := n / 64 % 64) (by omega) (by omega) (by omega) (by omega)
    (by omega)
  have hvalue : ((n / 4096 % 16 + 224) % 16 * 64 + n / 64 % 64) * 64 + n % 64 = n := by omega
  simp only [firstChar, byte_lt hfirst, le_byte hfirst, toNat_byte hfirst, hfits, hvalue,
    low_byte (n := n / 64 % 64) (by omega), low_byte (n := n % 64) (by omega),
    continues_byte (n := n % 64) (by omega), UInt8.reduceToNat, Bool.not_true, Bool.or_eq_true,
    decide_eq_true_eq]
  rw [if_neg (by omega), if_neg (by omega), if_neg (by decide), if_neg (by omega), if_neg (by decide),
    if_pos (by omega)]

theorem firstChar_four (hlow : 0x10000 ≤ n) (hhigh : n < 0x110000) :
    firstChar (UInt8.ofNat (n / 262144 % 8 + 240))
      (UInt8.ofNat (n / 4096 % 64 + 128) :: UInt8.ofNat (n / 64 % 64 + 128) ::
        UInt8.ofNat (n % 64 + 128) :: rest) = .ok (Char.ofNat n, 3) := by
  have hfirst : n / 262144 % 8 + 240 < 256 := by omega
  have hfits := fitsSecond_byte hfirst (m := n / 4096 % 64) (by omega) (by omega) (by omega) (by omega)
    (by omega)
  have hvalue : (((n / 262144 % 8 + 240) % 8 * 64 + n / 4096 % 64) * 64 + n / 64 % 64) * 64 + n % 64 =
      n := by omega
  simp only [firstChar, byte_lt hfirst, le_byte hfirst, toNat_byte hfirst, hfits, hvalue,
    low_byte (n := n / 4096 % 64) (by omega), low_byte (n := n / 64 % 64) (by omega),
    low_byte (n := n % 64) (by omega), continues_byte (n := n / 64 % 64) (by omega),
    continues_byte (n := n % 64) (by omega), UInt8.reduceToNat, Bool.not_true, Bool.or_eq_true,
    decide_eq_true_eq]
  rw [if_neg (by omega), if_neg (by omega), if_neg (by decide), if_neg (by omega), if_neg (by decide),
    if_neg (by omega), if_neg (by decide)]

/-- The bytes of a character are read as the character, and no others with them. -/
theorem exists_firstChar (c : Char) :
    ∃ first extra, String.utf8EncodeChar c = first :: extra ∧
      ∀ rest, firstChar first (extra ++ rest) = .ok (c, extra.length) := by
  have hchar : Char.ofNat c.toNat = c := Char.ofNat_toNat c
  have hvalid : c.toNat < 0xd800 ∨ 0xdfff < c.toNat ∧ c.toNat < 0x110000 := c.valid
  have hvalue : c.val.toNat = c.toNat := rfl
  simp only [String.utf8EncodeChar, hvalue]
  split_ifs with hone htwo hthree
  · refine ⟨_, _, rfl, fun rest => ?_⟩
    rw [List.nil_append, firstChar_one rest (by omega), hchar]
    rfl
  · refine ⟨_, _, rfl, fun rest => ?_⟩
    rw [List.singleton_append, firstChar_two rest (by omega) (by omega), hchar]
    rfl
  · refine ⟨_, _, rfl, fun rest => ?_⟩
    rw [List.cons_append, List.singleton_append,
      firstChar_three rest (by omega) (by omega) (by omega), hchar]
    rfl
  · refine ⟨_, _, rfl, fun rest => ?_⟩
    rw [List.cons_append, List.cons_append, List.singleton_append,
      firstChar_four rest (by omega) (by omega), hchar]
    rfl

/-- A text is what its bytes stand for. -/
theorem ofAnyUtf8_toUtf8 (t : Text) : ofAnyUtf8 (toUtf8 t) = t := by
  induction t with
  | nil => rw [toUtf8, List.flatMap_nil, ofAnyUtf8]
  | cons c t ih =>
      obtain ⟨first, extra, hbytes, hread⟩ := exists_firstChar c
      have hsplit : toUtf8 (c :: t) = first :: (extra ++ toUtf8 t) := by
        rw [toUtf8, List.flatMap_cons, hbytes]
        rfl
      rw [hsplit, ofAnyUtf8, hread]
      simp only [List.drop_left, ih]

theorem toUtf8_append (t u : Text) : toUtf8 (t ++ u) = toUtf8 t ++ toUtf8 u := List.flatMap_append

variable {a : UInt8} {rest more bytes cut : List UInt8} {c : Char} {extra : Nat}

/-- A character is read from its own bytes, and what follows them does not matter. -/
theorem firstChar_append (h : firstChar a rest = .ok (c, extra)) (more : List UInt8) :
    extra ≤ rest.length ∧ firstChar a (rest ++ more) = .ok (c, extra) := by
  revert h
  unfold firstChar
  rcases rest with _ | ⟨b, _ | ⟨c', _ | ⟨d, rest⟩⟩⟩ <;>
    simp only [List.nil_append, List.cons_append, List.length_cons, List.length_nil] <;> intro h <;>
    split_ifs at h ⊢ <;> grind

/-- Bytes that go wrong before their end go wrong whatever follows them. -/
theorem firstChar_append_error {count : Nat} {cause : Utf8Cause}
    (h : firstChar a rest = .error (count, cause)) (hcause : cause ≠ .endOfData) (more : List UInt8) :
    firstChar a (rest ++ more) = .error (count, cause) := by
  revert h
  unfold firstChar
  rcases rest with _ | ⟨b, _ | ⟨c', _ | ⟨d, rest⟩⟩⟩ <;>
    simp only [List.nil_append, List.cons_append] <;> intro h <;>
    split_ifs at h ⊢ <;> grind
/-- What bytes stand for does not depend on their place. -/
theorem toOption_ofUtf8From (place place' : Nat) (bytes : List UInt8) :
    (ofUtf8From place bytes).toOption = (ofUtf8From place' bytes).toOption := by
  fun_induction ofUtf8From place bytes generalizing place' with
  | case1 place => rw [ofUtf8From]
  | case2 place a rest c extra hfirst ih =>
      rw [ofUtf8From, hfirst, toOption_map, ih (place' + 1 + extra), ← toOption_map]
  | case3 place a rest count cause hfirst =>
      rw [ofUtf8From, hfirst]
      rfl

theorem ofUtf8_cons (h : firstChar a rest = .ok (c, extra)) :
    (ofUtf8 (a :: rest)).toOption = (ofUtf8 (rest.drop extra)).toOption.map (c :: ·) := by
  rw [ofUtf8, ofUtf8From, h, ofUtf8, ← toOption_ofUtf8From (0 + 1 + extra), ← toOption_map]

theorem ofUtf8_cons_of_error {fault : Nat × Utf8Cause} (h : firstChar a rest = .error fault) :
    (ofUtf8 (a :: rest)).toOption = none := by
  rw [ofUtf8, ofUtf8From, h]
  rfl

/-- What is read of the start of bytes stays, and what it leaves is read together with what follows. -/
theorem ofUtf8_append_of_start {place : Nat} {t : Text} (h : ofUtf8Start place bytes = .ok (t, cut))
    (more : List UInt8) :
    (ofUtf8 (bytes ++ more)).toOption = (ofUtf8 (cut ++ more)).toOption.map (t ++ ·) := by
  fun_induction ofUtf8Start place bytes generalizing t with
  | case1 place =>
      cases h
      exact Option.map_id'.symm
  | case2 place a rest c extra hfirst ih =>
      obtain ⟨⟨t', cut'⟩, hrest, h⟩ := exists_of_bind_eq_ok h
      cases h
      obtain ⟨hle, hmore⟩ := firstChar_append hfirst more
      rw [List.cons_append, ofUtf8_cons hmore, List.drop_append_of_le_length hle, ih hrest,
        Option.map_map]
      rfl
  | case3 place a rest count hfirst =>
      cases h
      exact Option.map_id'.symm
  | case4 place a rest count cause hcause hfirst => cases h

/-- Bytes that go wrong before their end stand for nothing, whatever follows them. -/
theorem ofUtf8_append_of_start_error {place : Nat} {fault : Utf8Fault}
    (h : ofUtf8Start place bytes = .error fault) (more : List UInt8) :
    (ofUtf8 (bytes ++ more)).toOption = none := by
  fun_induction ofUtf8Start place bytes with
  | case1 place => cases h
  | case2 place a rest c extra hfirst ih =>
      cases hrest : ofUtf8Start (place + 1 + extra) (rest.drop extra) with
      | ok read =>
          rw [hrest] at h
          cases h
      | error fault' =>
          rw [hrest] at ih h
          cases h
          obtain ⟨hle, hmore⟩ := firstChar_append hfirst more
          rw [List.cons_append, ofUtf8_cons hmore, List.drop_append_of_le_length hle, ih rfl]
          rfl
  | case3 place a rest count hfirst => cases h
  | case4 place a rest count cause hcause hfirst =>
      rw [List.cons_append]
      exact ofUtf8_cons_of_error (firstChar_append_error hfirst hcause more)

/-- Bytes that come in pieces stand for the same text as all of them together, or for none. -/
theorem ofUtf8_flatten (cut : List UInt8) (pieces : List (List UInt8)) :
    (ofUtf8 (cut ++ pieces.flatten)).toOption =
      match ofUtf8Pieces cut pieces with
      | (t, none) => some t
      | (_, some _) => none := by
  induction pieces generalizing cut with
  | nil =>
      rw [ofUtf8Pieces, List.flatten_nil, List.append_nil]
      cases ofUtf8 cut <;> rfl
  | cons piece pieces ih =>
      rw [ofUtf8Pieces, List.flatten_cons, ← List.append_assoc]
      cases hstart : ofUtf8Start 0 (cut ++ piece) with
      | error fault => exact ofUtf8_append_of_start_error hstart _
      | ok read =>
          obtain ⟨t, cut'⟩ := read
          rw [ofUtf8_append_of_start hstart, ih]
          dsimp only
          rcases ofUtf8Pieces cut' pieces with ⟨more, _ | fault⟩ <;> rfl

end AgendaLinks.Text
