import AgendaLinks.Proofs.Text.Casing
import AgendaLinks.Proofs.Uri.Spelling

/-!
Links written with a scheme and a plain authority have parts, and these stand in the text one after the
other. The host is a part of the authority in small letters, and written as an authority of its own it is
its own host.
-/

namespace AgendaLinks.Uri

open Text

/-- Authorities of characters below code point 128 without square brackets. -/
def IsPlainAuthority (t : Text) : Prop := ∀ c ∈ t, c.toNat < 128 ∧ c ≠ '[' ∧ c ≠ ']'

instance (t : Text) : Decidable (IsPlainAuthority t) :=
  inferInstanceAs (Decidable (∀ c ∈ t, c.toNat < 128 ∧ c ≠ '[' ∧ c ≠ ']'))

/-- A link with its scheme, its authority, and what follows the authority. -/
structure Written where
  scheme : Text
  authority : Text
  tail : Text
  scheme_mem : scheme ∈ schemes
  plain : IsPlainAuthority authority
  undelimited : ∀ c ∈ authority, endsAuthority c = false
  delimited : ∀ c ∈ tail.head?, endsAuthority c = true
  clean : ∀ c ∈ authority ++ tail, isPassedOver c = false

namespace Written

def text (w : Written) : Text := w.scheme ++ ':' :: '/' :: '/' :: (w.authority ++ w.tail)

/-- The parts that stand in the text. -/
def parts (w : Written) : Uri :=
  { scheme := w.scheme
    authority := w.authority
    path := (cut '?' (cut '#' w.tail).1).1
    query := (cut '?' (cut '#' w.tail).1).2.getD []
    fragment := (cut '#' w.tail).2.getD [] }

def spelling (w : Written) : Spelling w.parts :=
  Spelling.ofTail w.scheme_mem w.undelimited w.delimited w.clean

theorem text_spelling (w : Written) : w.spelling.text = w.text :=
  Spelling.text_ofTail w.scheme_mem w.undelimited w.delimited w.clean

end Written

theorem checkBrackets_of_plain {t : Text} (h : IsPlainAuthority t) : checkBrackets t = .ok () := by
  have hopen : t.contains '[' = false := by
    rw [List.contains_eq_mem, decide_eq_false_iff_not]
    exact fun hmem => (h _ hmem).2.1 rfl
  have hclose : t.contains ']' = false := by
    rw [List.contains_eq_mem, decide_eq_false_iff_not]
    exact fun hmem => (h _ hmem).2.2 rfl
  rw [checkBrackets, hopen, hclose]

theorem checkDisguises_of_plain {t : Text} (h : IsPlainAuthority t) : checkDisguises t = .ok () := by
  have hlow : ∀ n ∈ disguises, 128 ≤ n := by
    decide
  have hnone : (t.any fun c => disguises.contains c.toNat) = false := by
    rw [List.any_eq_false]
    intro c hc hmem
    have := hlow _ (List.contains_iff_mem.1 hmem)
    have := (h c hc).1
    omega
  rw [checkDisguises, hnone]
  rfl

/-- A text with a plain authority has its parts. -/
theorem ofText_of_plain {t : Text} (h : IsPlainAuthority (partsOf t).authority) :
    ofText t = .ok (partsOf t) :=
  ofText_eq_ok_iff.2 ⟨checkBrackets_of_plain h, checkDisguises_of_plain h, rfl⟩

namespace Spelling

variable {u : Uri} (s : Spelling u)

theorem ofText_text_of_plain (h : IsPlainAuthority u.authority) : ofText s.text = .ok u := by
  have hparts := s.partsOf_text
  rw [ofText_of_plain (by rwa [hparts]), hparts]

end Spelling

/-- A written link has the parts that stand in it. -/
theorem ofText_text (w : Written) : ofText w.text = .ok w.parts := by
  rw [← w.text_spelling]
  exact w.spelling.ofText_text_of_plain w.plain

/-- A spelling with a plain authority is a written link. -/
theorem Spelling.exists_written {u : Uri} (s : Spelling u) (h : IsPlainAuthority u.authority) :
    ∃ w : Written, w.text = s.text ∧ w.parts = u := by
  have hclean : ∀ c ∈ u.authority ++ s.tail, isPassedOver c = false := fun c hc =>
    (List.mem_append.1 hc).elim (fun hc => s.clean c (by simp [hc])) s.clean_of_mem_tail
  let w : Written := ⟨u.scheme, u.authority, s.tail, s.scheme_mem, h, s.undelimited,
    fun _ hc => s.endsAuthority_head hc, hclean⟩
  exact ⟨w, rfl, Except.ok.inj ((Uri.ofText_text w).symm.trans (s.ofText_text_of_plain h))⟩

theorem mem_hostAndPort {t : Text} {c : Char} (hc : c ∈ hostAndPort t) : c ∈ t ∧ c ≠ '@' := by
  rw [hostAndPort] at hc
  rcases cutLast_cases '@' t with ⟨hnone, hcut⟩ | ⟨left, right, hnone, ht, hcut⟩
  · rw [hcut] at hc
    exact ⟨hc, fun heq => hnone (heq ▸ hc)⟩
  · rw [hcut] at hc
    rw [ht]
    exact ⟨List.mem_append_right _ (List.mem_cons_of_mem _ hc), fun heq => hnone (heq ▸ hc)⟩

/-- The host of a plain authority stands between the user and the port. -/
theorem writtenHost_of_plain {t : Text} (h : IsPlainAuthority t) :
    writtenHost t = (cut ':' (hostAndPort t)).1 := by
  have hbracket : '[' ∉ hostAndPort t := fun hmem => (h _ (mem_hostAndPort hmem).1).2.1 rfl
  rw [writtenHost]
  simp only [cut_of_not_mem hbracket]

theorem mem_writtenHost_of_plain {t : Text} (h : IsPlainAuthority t) {c : Char}
    (hc : c ∈ writtenHost t) : c ∈ t ∧ c ≠ ':' ∧ c ≠ '@' := by
  rw [writtenHost_of_plain h] at hc
  obtain ⟨hmem, hcolon⟩ := mem_fst_cut hc
  obtain ⟨hmem, hat⟩ := mem_hostAndPort hmem
  exact ⟨hmem, hcolon, hat⟩

theorem ascii_writtenHost {t : Text} (h : IsPlainAuthority t) : ∀ c ∈ writtenHost t, c.toNat < 128 :=
  fun c hc => (h c (mem_writtenHost_of_plain h hc).1).1

/-- With a zone or without, the host is in small letters what is written. -/
theorem host_of_plain {u : Uri} (h : IsPlainAuthority u.authority) :
    u.host = lower (writtenHost u.authority) := by
  have hascii := ascii_writtenHost h
  rw [host]
  rcases cut_cases '%' (writtenHost u.authority) with ⟨-, hcut⟩ | ⟨name, zone, -, hname, hcut⟩
  · rw [hcut]
  · rw [hcut]
    rw [hname] at hascii ⊢
    have hleft : ∀ c ∈ name, c.toNat < 128 := fun c hc => hascii c (List.mem_append_left _ hc)
    have hright : ∀ c ∈ '%' :: zone, c.toNat < 128 := fun c hc =>
      hascii c (List.mem_append_right _ hc)
    have hboth : ∀ c ∈ lower name ++ '%' :: zone, c.toNat < 128 := fun c hc =>
      (List.mem_append.1 hc).elim (ascii_lower hleft c) (hright c)
    -- the name is made small twice, the zone once
    simp only
    rw [lower_of_ascii hboth, lower_of_ascii hascii, List.map_append, List.map_append,
      ← lower_of_ascii (ascii_lower hleft), lower_lower hleft, lower_of_ascii hleft]

/-- The characters of the host are those of the authority and small letters. -/
theorem mem_host_of_plain {u : Uri} (h : IsPlainAuthority u.authority) {c : Char} (hc : c ∈ u.host) :
    (c ∈ u.authority ∧ c ≠ ':' ∧ c ≠ '@') ∨ (97 ≤ c.toNat ∧ c.toNat ≤ 122) := by
  rw [host_of_plain h] at hc
  exact (mem_lower_of_ascii (ascii_writtenHost h) hc).imp_left (mem_writtenHost_of_plain h)

theorem isPlainAuthority_host {u : Uri} (h : IsPlainAuthority u.authority) :
    IsPlainAuthority u.host := by
  intro c hc
  rcases mem_host_of_plain h hc with ⟨hmem, -⟩ | hletter
  · exact h c hmem
  · refine ⟨by omega, ?_, ?_⟩
    all_goals
      rintro rfl
      exact absurd hletter (by decide)

theorem not_mem_host_of_plain {u : Uri} (h : IsPlainAuthority u.authority) {d : Char}
    (hd : d = ':' ∨ d = '@') : d ∉ u.host := by
  intro hmem
  rcases mem_host_of_plain h hmem with ⟨-, hcolon, hat⟩ | hletter
  · exact hd.elim hcolon hat
  · rcases hd with rfl | rfl
    · exact absurd hletter (by decide)
    · exact absurd hletter (by decide)

/-- A host that is written as an authority is the host. -/
theorem host_host {u v : Uri} (h : IsPlainAuthority u.authority) (hv : v.authority = u.host) :
    v.host = u.host := by
  have hat : '@' ∉ u.host := not_mem_host_of_plain h (Or.inr rfl)
  have hcolon : ':' ∉ u.host := not_mem_host_of_plain h (Or.inl rfl)
  have hplain : IsPlainAuthority v.authority := by
    rw [hv]
    exact isPlainAuthority_host h
  have hwritten : writtenHost v.authority = u.host := by
    rw [writtenHost_of_plain hplain, hv, hostAndPort, cutLast_of_not_mem hat]
    simp only [cut_of_not_mem hcolon]
  rw [host_of_plain hplain, hwritten, host_of_plain h, lower_lower (ascii_writtenHost h)]

end AgendaLinks.Uri
