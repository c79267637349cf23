import AgendaLinks.Text.Classes
import Mathlib.Data.List.Basic
import Mathlib.Data.List.TakeDrop

/-!
Cuts and joins undo each other. A text is cut at a character only where the character stands, so the
pieces hold it no more, and joining them with it gives the text back.
-/

namespace AgendaLinks.Text

/-- What does not hold the character is put before the first occurrence. -/
theorem cut_append_of_not_mem {d : Char} {left : Text} (h : d ∉ left) (right : Text) :
    cut d (left ++ right) = (left ++ (cut d right).1, (cut d right).2) := by
  induction left with
  | nil => rfl
  | cons c left ih =>
      rw [List.mem_cons, not_or] at h
      rw [List.cons_append, cut, if_neg (Ne.symm h.1), ih h.2]
      rfl

theorem cut_of_not_mem {d : Char} {t : Text} (h : d ∉ t) : cut d t = (t, none) := by
  have hcut := cut_append_of_not_mem h []
  rwa [cut, List.append_nil] at hcut

theorem cut_append {d : Char} {left : Text} (h : d ∉ left) (right : Text) :
    cut d (left ++ d :: right) = (left, some right) := by
  rw [cut_append_of_not_mem h, cut, if_pos rfl, List.append_nil]

/-- A text is its part up to the first occurrence, and if there is one, the character and the rest. -/
theorem cut_cases (d : Char) (t : Text) :
    (d ∉ t ∧ cut d t = (t, none)) ∨
      ∃ left right, d ∉ left ∧ t = left ++ d :: right ∧ cut d t = (left, some right) := by
  by_cases h : d ∈ t
  · obtain ⟨left, right, rfl, hleft⟩ := List.eq_append_cons_of_mem h
    exact Or.inr ⟨left, right, hleft, rfl, cut_append hleft right⟩
  · exact Or.inl ⟨h, cut_of_not_mem h⟩

theorem eq_append_of_cut {d : Char} {t left right : Text} (h : cut d t = (left, some right)) :
    t = left ++ d :: right := by
  rcases cut_cases d t with ⟨-, hcut⟩ | ⟨left', right', -, ht, hcut⟩
  · rw [hcut] at h
    cases h
  · rw [hcut] at h
    cases h
    exact ht

theorem mem_fst_cut {d c : Char} {t : Text} (hc : c ∈ (cut d t).1) : c ∈ t ∧ c ≠ d := by
  rcases cut_cases d t with ⟨hnone, hcut⟩ | ⟨left, right, hnone, ht, hcut⟩
  · rw [hcut] at hc
    exact ⟨hc, fun heq => hnone (heq ▸ hc)⟩
  · rw [hcut] at hc
    rw [ht]
    exact ⟨List.mem_append_left _ hc, fun heq => hnone (heq ▸ hc)⟩

theorem mem_snd_cut {d c : Char} {t right : Text} (h : (cut d t).2 = some right) (hc : c ∈ right) :
    c ∈ t := by
  rw [eq_append_of_cut (Prod.ext rfl h)]
  exact List.mem_append_right _ (List.mem_cons_of_mem _ hc)

theorem mem_getD_cut {d c : Char} {t : Text} (hc : c ∈ (cut d t).2.getD []) : c ∈ t := by
  cases h : (cut d t).2 with
  | none =>
      rw [h] at hc
      cases hc
  | some right =>
      rw [h] at hc
      exact mem_snd_cut h hc

theorem cutLast_of_not_mem {d : Char} {t : Text} (h : d ∉ t) : cutLast d t = none := by
  induction t with
  | nil => rfl
  | cons c t ih =>
      rw [List.mem_cons, not_or] at h
      rw [cutLast, ih h.2]
      exact if_neg (Ne.symm h.1)

theorem cutLast_append {d : Char} (left : Text) {right : Text} (h : d ∉ right) :
    cutLast d (left ++ d :: right) = some (left, right) := by
  induction left with
  | nil =>
      rw [List.nil_append, cutLast, cutLast_of_not_mem h]
      exact if_pos rfl
  | cons c left ih => rw [List.cons_append, cutLast, ih]

/-- A text without the character, or the part up to its last occurrence, the character and the rest. -/
theorem cutLast_cases (d : Char) (t : Text) :
    (d ∉ t ∧ cutLast d t = none) ∨
      ∃ left right, d ∉ right ∧ t = left ++ d :: right ∧ cutLast d t = some (left, right) := by
  by_cases h : d ∈ t
  · obtain ⟨right, left, heq, hright⟩ := List.eq_append_cons_of_mem (List.mem_reverse.2 h)
    have ht : t = left.reverse ++ d :: right.reverse := by
      rw [← List.reverse_reverse t, heq]
      simp
    have hright' : d ∉ right.reverse := fun hmem => hright (List.mem_reverse.1 hmem)
    refine Or.inr ⟨left.reverse, right.reverse, hright', ht, ?_⟩
    rw [ht]
    exact cutLast_append _ hright'
  · exact Or.inl ⟨h, cutLast_of_not_mem h⟩

theorem pieces_of_not_mem {d : Char} {t : Text} (h : d ∉ t) : pieces d t = [t] := by
  induction t with
  | nil => rfl
  | cons c t ih =>
      rw [List.mem_cons, not_or] at h
      rw [pieces, if_neg (Ne.symm h.1), ih h.2]

theorem pieces_append {d : Char} {left : Text} (h : d ∉ left) (right : Text) :
    pieces d (left ++ d :: right) = left :: pieces d right := by
  induction left with
  | nil => rw [List.nil_append, pieces, if_pos rfl]
  | cons c left ih =>
      rw [List.mem_cons, not_or] at h
      rw [List.cons_append, pieces, if_neg (Ne.symm h.1), ih h.2]

/-- A text has a first piece, and it is that piece and each other one behind the character. -/
theorem exists_pieces (d : Char) (t : Text) :
    ∃ first rest, pieces d t = first :: rest ∧ t = first ++ rest.flatMap (d :: ·) := by
  induction t with
  | nil => exact ⟨[], [], rfl, rfl⟩
  | cons c t ih =>
      obtain ⟨first, rest, hpieces, ht⟩ := ih
      rw [pieces]
      split_ifs with hc
      · refine ⟨[], pieces d t, rfl, ?_⟩
        rw [hpieces, List.nil_append, List.flatMap_cons, List.cons_append, ← ht, hc]
      · rw [hpieces]
        refine ⟨c :: first, rest, rfl, ?_⟩
        rw [List.cons_append, ← ht]

/-- A text that is cut at one more place has the pieces of both parts. -/
theorem pieces_append_cons (d : Char) (left right : Text) :
    pieces d (left ++ d :: right) = pieces d left ++ pieces d right := by
  induction left with
  | nil => exact pieces_append List.not_mem_nil right
  | cons c left ih =>
      rw [List.cons_append, pieces, pieces, ih]
      split_ifs
      · rfl
      · obtain ⟨first, rest, hpieces, -⟩ := exists_pieces d left
        rw [hpieces]
        rfl

/-- The characters of a piece are those of the text, other than the one it is cut at. -/
theorem mem_of_mem_pieces {d c : Char} {t piece : Text} (hpiece : piece ∈ pieces d t)
    (hc : c ∈ piece) : c ∈ t ∧ c ≠ d := by
  induction t generalizing piece with
  | nil =>
      rw [pieces, List.mem_singleton] at hpiece
      rw [hpiece] at hc
      cases hc
  | cons b t ih =>
      rw [pieces] at hpiece
      split_ifs at hpiece with hb
      · rcases List.mem_cons.1 hpiece with rfl | hrest
        · cases hc
        · exact ⟨List.mem_cons_of_mem _ (ih hrest hc).1, (ih hrest hc).2⟩
      · obtain ⟨first, rest, hpieces, -⟩ := exists_pieces d t
        rw [hpieces] at hpiece ih
        rcases List.mem_cons.1 hpiece with rfl | hrest
        · rcases List.mem_cons.1 hc with rfl | hfirst
          · exact ⟨List.mem_cons_self, hb⟩
          · have := ih List.mem_cons_self hfirst
            exact ⟨List.mem_cons_of_mem _ this.1, this.2⟩
        · have := ih (List.mem_cons_of_mem _ hrest) hc
          exact ⟨List.mem_cons_of_mem _ this.1, this.2⟩

/-- A run of characters of a class goes up to the first character of no such class. -/
theorem span_append {p : Char → Bool} {start rest : Text} (hstart : ∀ c ∈ start, p c = true)
    (hrest : ∀ c ∈ rest.head?, p c = false) : (start ++ rest).span p = (start, rest) := by
  rw [List.span_eq_takeWhile_dropWhile, List.takeWhile_append_of_pos hstart,
    List.dropWhile_append_of_pos hstart]
  cases rest with
  | nil => rw [List.takeWhile_nil, List.append_nil, List.dropWhile_nil]
  | cons c rest =>
      have hc : ¬p c = true := Bool.eq_false_iff.1 (hrest c rfl)
      rw [List.takeWhile_cons_of_neg hc, List.dropWhile_cons_of_neg hc, List.append_nil]

/-- A run ends at the latest before a character of no such class, whatever follows it. -/
theorem dropWhile_append_cons {p : Char → Bool} {d : Char} (hd : p d = false) (t rest : Text) :
    (t ++ d :: rest).dropWhile p = t.dropWhile p ++ d :: rest := by
  induction t with
  | nil => simp [hd]
  | cons c t ih => by_cases hc : p c = true <;> simp [hc, ih]

theorem span_append_cons {p : Char → Bool} {d : Char} (hd : p d = false) (t rest : Text) :
    (t ++ d :: rest).span p = (t.takeWhile p, t.dropWhile p ++ d :: rest) := by
  have hrun : (t ++ d :: rest).takeWhile p = t.takeWhile p := by
    induction t with
    | nil => simp [hd]
    | cons c t ih => by_cases hc : p c = true <;> simp [hc, ih]
  rw [List.span_eq_takeWhile_dropWhile, hrun, dropWhile_append_cons hd]

/-- What follows a run begins with a character of no such class. -/
theorem of_mem_head?_dropWhile {p : Char → Bool} {t : Text} {c : Char}
    (h : c ∈ (t.dropWhile p).head?) : c ∈ t ∧ p c = false := by
  have hhead := List.head?_dropWhile_not p t
  rw [Option.mem_def.1 h] at hhead
  exact ⟨(List.dropWhile_suffix p).subset (List.mem_of_mem_head? h), by simpa using hhead⟩

theorem trimRight_isPrefix (t : Text) : trimRight t <+: t := by
  rw [trimRight, ← List.reverse_suffix, List.reverse_reverse]
  exact List.dropWhile_suffix _

/-- A text that trimming leaves as it is does not begin with a blank. -/
theorem not_isBlank_of_trim_eq {c : Char} {t : Text} (h : trim (c :: t) = c :: t) :
    isBlank c = false := by
  by_contra hc
  rw [Bool.not_eq_false] at hc
  have hlength : (trim (c :: t)).length ≤ t.length := by
    rw [trim, trimLeft, List.dropWhile_cons_of_pos hc]
    exact Nat.le_trans (trimRight_isPrefix _).length_le (List.dropWhile_suffix _).length_le
  rw [h, List.length_cons] at hlength
  omega

theorem trim_cons_of_isBlank {c : Char} (hc : isBlank c = true) (t : Text) :
    trim (c :: t) = trim t := by
  rw [trim, trimLeft, List.dropWhile_cons_of_pos hc]
  rfl

/-- A text with no blank at either end. -/
theorem trim_eq_self {t : Text} (hfirst : ∀ c ∈ t.head?, isBlank c = false)
    (hlast : ∀ c ∈ t.getLast?, isBlank c = false) : trim t = t := by
  have hleft : trimLeft t = t := by
    cases t with
    | nil => rfl
    | cons c t => exact List.dropWhile_cons_of_neg (Bool.eq_false_iff.1 (hfirst c rfl))
  have hright : t.reverse.dropWhile isBlank = t.reverse := by
    rw [← List.head?_reverse] at hlast
    cases hreverse : t.reverse with
    | nil => rfl
    | cons c rest =>
        rw [hreverse] at hlast
        exact List.dropWhile_cons_of_neg (Bool.eq_false_iff.1 (hlast c rfl))
  rw [trim, hleft, trimRight, hright, List.reverse_reverse]

/-- Blanks behind a text do not matter. -/
theorem trim_append_of_isBlank (t : Text) {ending : Text} (h : ∀ c ∈ ending, isBlank c = true) :
    trim (t ++ ending) = trim t := by
  have hright (u : Text) : trimRight (u ++ ending) = trimRight u := by
    rw [trimRight, List.reverse_append, List.dropWhile_append_of_pos]
    · rfl
    · exact fun c hc => h c (List.mem_reverse.1 hc)
  have hnone : ending.dropWhile isBlank = [] := by
    rw [← List.append_nil ending, List.dropWhile_append_of_pos h, List.dropWhile_nil]
  rw [trim, trim, trimLeft, trimLeft, List.dropWhile_append]
  split_ifs with hempty
  · rw [List.isEmpty_iff.1 hempty, hnone]
  · exact hright _

theorem ne_append_of_after?_eq_none {start t : Text} (h : after? start t = none) (rest : Text) :
    t ≠ start ++ rest := by
  intro heq
  rw [after?_eq_some_iff.2 heq] at h
  cases h

theorem cutAt_eq_none_iff {sub t : Text} :
    cutAt sub t = none ↔ ¬∃ left right, t = left ++ sub ++ right := by
  induction t with
  | nil =>
      rw [cutAt]
      cases sub with
      | nil => exact iff_of_false (Option.some_ne_none _) fun h => h ⟨[], [], rfl⟩
      | cons c sub => exact iff_of_true rfl (by simp)
  | cons c t ih =>
      rw [cutAt]
      cases hstart : after? sub (c :: t) with
      | some rest =>
          refine iff_of_false (Option.some_ne_none ([], rest)) fun h => h ⟨[], rest, ?_⟩
          exact after?_eq_some_iff.1 hstart
      | none =>
          simp only [Option.map_eq_none_iff]
          rw [ih, not_iff_not]
          constructor
          · rintro ⟨left, right, rfl⟩
            exact ⟨c :: left, right, rfl⟩
          · rintro ⟨left, right, h⟩
            cases left with
            | nil => exact absurd h (ne_append_of_after?_eq_none hstart right)
            | cons d left => exact ⟨left, right, (List.cons.inj h).2⟩

/-- A text is cut at the first place where the other one stands. -/
theorem cutAt_eq_some {sub t left right : Text} (h : cutAt sub t = some (left, right)) :
    t = left ++ sub ++ right ∧ ∀ left' right', t = left' ++ sub ++ right' → left <+: left' := by
  induction t generalizing left with
  | nil =>
      rw [cutAt] at h
      split_ifs at h with hsub
      cases h
      exact ⟨by simpa using hsub, fun _ _ _ => List.nil_prefix⟩
  | cons c t ih =>
      rw [cutAt] at h
      cases hstart : after? sub (c :: t) with
      | some rest =>
          rw [hstart] at h
          cases h
          exact ⟨after?_eq_some_iff.1 hstart, fun _ _ _ => List.nil_prefix⟩
      | none =>
          rw [hstart] at h
          obtain ⟨⟨left₀, right₀⟩, hcut, heq⟩ := Option.map_eq_some_iff.1 h
          cases heq
          obtain ⟨rfl, hfirst⟩ := ih hcut
          refine ⟨rfl, fun left' right' heq => ?_⟩
          cases left' with
          | nil => exact absurd heq (ne_append_of_after?_eq_none hstart right')
          | cons d left' =>
              obtain ⟨rfl, hrest⟩ := List.cons.inj heq
              exact List.cons_prefix_cons.2 ⟨rfl, hfirst left' right' hrest⟩

theorem countOf_eq_zero_iff {sub t : Text} (hsub : sub ≠ []) :
    countOf sub t = 0 ↔ ¬∃ left right, t = left ++ sub ++ right := by
  rw [← cutAt_eq_none_iff, countOf, if_neg (by simpa using hsub)]
  split
  · exact iff_of_true rfl ‹_›
  · rename_i hcut
    refine iff_of_false (by omega) ?_
    rw [hcut]
    exact Option.some_ne_none _

/-- A text is cut behind what does not hold the first character of the other one. -/
theorem cutAt_append_of_not_mem {d : Char} {sub t : Text} (h : d ∉ t) (rest : Text) :
    cutAt (d :: sub) (t ++ rest) = (cutAt (d :: sub) rest).map fun cut => (t ++ cut.1, cut.2) := by
  induction t with
  | nil => exact Option.map_id'.symm
  | cons c t ih =>
      rw [List.mem_cons, not_or] at h
      rw [List.cons_append, cutAt, after?, if_neg h.1, ih h.2, Option.map_map]
      rfl

section

variable {sub : Text} (new : Text)

theorem replace_eq (hsub : sub ≠ []) (t : Text) :
    replace sub new t = (cutAt sub t).elim t fun cut => cut.1 ++ new ++ replace sub new cut.2 := by
  rw [replace, if_neg (by simpa using hsub)]
  split <;> rename_i hcut <;> rw [hcut] <;> rfl

theorem replace_nil (hsub : sub ≠ []) : replace sub new [] = [] := by
  rw [replace_eq new hsub, cutAt, if_neg (by simpa using hsub)]
  rfl

theorem replace_append_self (hsub : sub ≠ []) (rest : Text) :
    replace sub new (sub ++ rest) = new ++ replace sub new rest := by
  have hcut : cutAt sub (sub ++ rest) = some ([], rest) := by
    cases sub with
    | nil => exact absurd rfl hsub
    | cons d sub => rw [List.cons_append, cutAt, ← List.cons_append, after?_eq_some_iff.2 rfl]
  rw [replace_eq new hsub, hcut]
  rfl

/-- What is put before a text without moving the first cut stays in front. -/
theorem replace_append (hsub : sub ≠ []) {t rest : Text}
    (h : cutAt sub (t ++ rest) = (cutAt sub rest).map fun cut => (t ++ cut.1, cut.2)) :
    replace sub new (t ++ rest) = t ++ replace sub new rest := by
  rw [replace_eq new hsub, replace_eq new hsub rest, h]
  cases cutAt sub rest with
  | none => rfl
  | some cut => simp only [Option.map_some, Option.elim_some, List.append_assoc]

theorem replace_cons (hsub : sub ≠ []) {c : Char} {t : Text} (h : after? sub (c :: t) = none) :
    replace sub new (c :: t) = c :: replace sub new t := by
  apply replace_append new hsub (t := [c])
  rw [List.singleton_append, cutAt, h]
  rfl

end

end AgendaLinks.Text
