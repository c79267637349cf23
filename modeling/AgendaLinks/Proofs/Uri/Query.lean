import AgendaLinks.Proofs.Text.Casing
import AgendaLinks.Proofs.Text.Utf8
import AgendaLinks.Proofs.Uri.Spelling
import AgendaLinks.Uri.Query

/-!
Written queries. Whatever the names and values are, none of the characters that end a part of a link, or
that are passed over in one, is written, and the parameters are read one by one as they were given.
-/

namespace AgendaLinks.Uri

open Text

/-- Characters that names and values are written with. -/
def isCodeChar (c : Char) : Bool := isPlain c || ['+', '%'].contains c

/-- Characters that queries are written with. -/
def isQueryChar (c : Char) : Bool := isPlain c || ['+', '%', '=', '&'].contains c

theorem isCodeChar_hexDigit {n : Nat} (h : n < 16) : isCodeChar (hexDigit n) = true := by
  have hall : ∀ n < 16, isCodeChar (hexDigit n) = true := by
    decide
  exact hall n h

theorem isCodeChar_of_mem_encodeByte {b : UInt8} {c : Char} (hc : c ∈ encodeByte b) :
    isCodeChar c = true := by
  rw [encodeByte] at hc
  split_ifs at hc with hplain
  · rw [List.mem_singleton.1 hc, isCodeChar, hplain, Bool.true_or]
  · rw [List.mem_singleton.1 hc]
    rfl
  · have hbyte : b.toNat < 256 := b.toNat_lt
    rw [List.mem_cons, List.mem_cons, List.mem_singleton] at hc
    rcases hc with rfl | rfl | rfl
    · rfl
    · exact isCodeChar_hexDigit (by omega)
    · exact isCodeChar_hexDigit (by omega)

theorem isCodeChar_of_mem_encode {t : Text} {c : Char} (hc : c ∈ encode t) : isCodeChar c = true := by
  obtain ⟨b, -, hc⟩ := List.mem_flatMap.1 hc
  exact isCodeChar_of_mem_encodeByte hc

/-- Names and values are written without the signs that separate them. -/
theorem not_mem_encode {t : Text} {d : Char} (hd : d = '&' ∨ d = '=') : d ∉ encode t := by
  intro hmem
  have hcode := isCodeChar_of_mem_encode hmem
  rcases hd with rfl | rfl
  · exact absurd hcode (by decide)
  · exact absurd hcode (by decide)

theorem isQueryChar_of_mem_encode {t : Text} {c : Char} (hc : c ∈ encode t) : isQueryChar c = true := by
  have hcode := isCodeChar_of_mem_encode hc
  rw [isCodeChar, Bool.or_eq_true, List.contains_iff_mem] at hcode
  rw [isQueryChar, Bool.or_eq_true, List.contains_iff_mem]
  exact hcode.imp_right fun hmem => List.mem_append_left ['=', '&'] hmem

theorem mem_joinWith {sep : Text} {ts : List Text} {c : Char} (hc : c ∈ joinWith sep ts) :
    c ∈ sep ∨ ∃ t ∈ ts, c ∈ t := by
  induction ts with
  | nil => cases hc
  | cons t ts ih =>
      cases ts with
      | nil => exact Or.inr ⟨t, List.mem_cons_self, hc⟩
      | cons u ts =>
          rw [joinWith, List.append_assoc, List.mem_append, List.mem_append] at hc
          rcases hc with hc | hc | hc
          · exact Or.inr ⟨t, List.mem_cons_self, hc⟩
          · exact Or.inl hc
          · rcases ih hc with hsep | ⟨v, hv, hc⟩
            · exact Or.inl hsep
            · exact Or.inr ⟨v, List.mem_cons_of_mem _ hv, hc⟩

theorem isQueryChar_of_mem_writeQuery {parameters : List (Text × Text)} {c : Char}
    (hc : c ∈ writeQuery parameters) : isQueryChar c = true := by
  rcases mem_joinWith hc with hsep | ⟨t, ht, hc⟩
  · rw [List.mem_singleton.1 hsep]
    rfl
  · obtain ⟨⟨name, value⟩, -, rfl⟩ := List.mem_map.1 ht
    rw [List.mem_append, List.mem_cons] at hc
    rcases hc with hname | rfl | hvalue
    · exact isQueryChar_of_mem_encode hname
    · rfl
    · exact isQueryChar_of_mem_encode hvalue

theorem isPassedOver_of_isQueryChar {c : Char} (h : isQueryChar c = true) :
    isPassedOver c = false := isPassedOver_eq_false (by decide) h

theorem ne_number_of_isQueryChar {c : Char} (h : isQueryChar c = true) : c ≠ '#' := by
  rintro rfl
  exact absurd h (by decide)

theorem decodeBytes_cons {b : UInt8} (h : b ≠ 0x25) (rest : List UInt8) :
    decodeBytes (b :: rest) = b :: decodeBytes rest := by
  rw [decodeBytes.eq_def]
  split
  · contradiction
  · rename_i heq
    simp only [List.cons.injEq] at heq
    exact absurd heq.1 h
  · rename_i heq
    simp only [List.cons.injEq] at heq
    rw [heq.1, heq.2]

/-- A digit is written in one byte, from which its value is read. -/
theorem hexValue?_hexDigit {n : Nat} (h : n < 16) :
    ∃ b, String.utf8EncodeChar (hexDigit n) = [b] ∧ hexValue? b = some n ∧ hexDigit n ≠ '+' := by
  have hall : ∀ n < 16, String.utf8EncodeChar (hexDigit n) = [UInt8.ofNat (hexDigit n).toNat] ∧
      hexValue? (UInt8.ofNat (hexDigit n).toNat) = some n ∧ hexDigit n ≠ '+' := by
    decide
  exact ⟨_, hall n h⟩

theorem utf8EncodeChar_of_isPlain {b : UInt8} (h : isPlain (Char.ofNat b.toNat) = true) :
    String.utf8EncodeChar (Char.ofNat b.toNat) = [b] ∧ b ≠ 0x25 ∧ Char.ofNat b.toNat ≠ '+' := by
  have hall : ∀ n < 256, isPlain (Char.ofNat n) = true →
      String.utf8EncodeChar (Char.ofNat n) = [UInt8.ofNat n] ∧ UInt8.ofNat n ≠ 0x25 ∧
        Char.ofNat n ≠ '+' := by
    decide +kernel
  have hb := hall b.toNat b.toNat_lt h
  rwa [UInt8.ofNat_toNat] at hb

/-- The bytes that a byte is written with, with spaces for plus signs, are read as the byte. -/
theorem decodeBytes_encodeByte (b : UInt8) (rest : List UInt8) :
    decodeBytes (toUtf8 ((encodeByte b).map fun c => if c = '+' then ' ' else c) ++ rest) =
      b :: decodeBytes rest := by
  rw [encodeByte]
  split_ifs with hplain hspace
  · obtain ⟨hbytes, hpercent, hplus⟩ := utf8EncodeChar_of_isPlain hplain
    rw [List.map_singleton, if_neg hplus, toUtf8, List.flatMap_singleton, hbytes,
      List.singleton_append, decodeBytes_cons hpercent]
  · have hb : b = 0x20 := by
      have hcode := congrArg Char.toNat hspace
      rw [toNat_ofNat (by have := b.toNat_lt; omega)] at hcode
      exact UInt8.toNat_inj.1 hcode
    subst hb
    exact decodeBytes_cons (by decide) rest
  · have hlt := b.toNat_lt
    obtain ⟨x, hx, hhigh, hplus⟩ := hexValue?_hexDigit (n := b.toNat / 16) (by omega)
    obtain ⟨y, hy, hlow, hplus'⟩ := hexValue?_hexDigit (n := b.toNat % 16) (by omega)
    have hbytes : toUtf8 (['%', hexDigit (b.toNat / 16), hexDigit (b.toNat % 16)].map
        fun c => if c = '+' then ' ' else c) = [0x25, x, y] := by
      simp only [List.map_cons, List.map_nil, if_neg hplus, if_neg hplus', toUtf8, List.flatMap_cons,
        List.flatMap_nil, hx, hy]
      rfl
    have hvalue : b.toNat / 16 * 16 + b.toNat % 16 = b.toNat := by omega
    rw [hbytes, List.cons_append, List.cons_append, List.cons_append, decodeBytes, hhigh, hlow]
    simp only [hvalue, UInt8.ofNat_toNat, List.nil_append]

/-- What a text is written as in a query stands for the text. -/
theorem decode_encode (t : Text) : decode (encode t) = t := by
  have hbytes : ∀ bytes : List UInt8, decodeBytes (toUtf8
      ((bytes.flatMap encodeByte).map fun c => if c = '+' then ' ' else c)) = bytes := by
    intro bytes
    induction bytes with
    | nil => rfl
    | cons b bytes ih =>
        rw [List.flatMap_cons, List.map_append, toUtf8_append, decodeBytes_encodeByte, ih]
  rw [decode, encode, hbytes, ofAnyUtf8_toUtf8]

/-- The parameters of two queries with an ampersand between them are those of both. -/
theorem readQuery_append (left right : Text) :
    readQuery (left ++ '&' :: right) = readQuery left ++ readQuery right := by
  rw [readQuery, pieces_append_cons, List.filter_append, List.map_append]
  rfl

theorem readQuery_parameter (name value : Text) :
    readQuery (encode name ++ '=' :: encode value) = [(name, value)] := by
  have hampersand : '&' ∉ encode name ++ '=' :: encode value := by
    rw [List.mem_append, List.mem_cons, not_or, not_or]
    exact ⟨not_mem_encode (Or.inl rfl), by decide, not_mem_encode (Or.inl rfl)⟩
  have hcut := cut_append (not_mem_encode (t := name) (Or.inr rfl)) (encode value)
  rw [readQuery, pieces_of_not_mem hampersand, List.filter_cons_of_pos (by simp)]
  simp only [List.filter_nil, List.map_cons, List.map_nil, hcut, Option.getD_some, decode_encode]

/-- Written parameters are read one after the other. -/
theorem readQuery_writeQuery (parameters : List (Text × Text)) :
    readQuery (writeQuery parameters) = parameters := by
  induction parameters with
  | nil => rfl
  | cons parameter parameters ih =>
      obtain ⟨name, value⟩ := parameter
      cases parameters with
      | nil => exact readQuery_parameter name value
      | cons next parameters =>
          have hwrite : writeQuery ((name, value) :: next :: parameters) =
              (encode name ++ '=' :: encode value) ++ '&' :: writeQuery (next :: parameters) := by
            rw [writeQuery, List.map_cons, List.map_cons, joinWith, List.append_assoc]
            rfl
          rw [hwrite, readQuery_append, readQuery_parameter, ih, List.singleton_append]

end AgendaLinks.Uri
