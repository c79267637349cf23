import AgendaLinks.Listing.Events
import AgendaLinks.Proofs.Text.Cuts
import Mathlib.Data.List.DropRight

/-!
Line ends do not matter. A line is read without the line feeds and carriage returns at its end; what is
left is a start of the line, and it begins with a bullet exactly if the line does. The spaces that a line
begins with tell further lines of a property from others.
-/

namespace AgendaLinks.Listing

open Text

/-- Characters that end a line. -/
def isLineEnd (c : Char) : Bool := c = '\r' || c = '\n'

theorem chomp_eq_rdropWhile (line : Text) : chomp line = line.rdropWhile isLineEnd := rfl

theorem chomp_isPrefix (line : Text) : chomp line <+: line := List.rdropWhile_prefix _ line

/-- What stands before a character that ends no line is kept. -/
theorem chomp_append_cons {c : Char} (hc : isLineEnd c = false) (start line : Text) :
    chomp (start ++ c :: line) = start ++ c :: chomp line := by
  rw [chomp_eq_rdropWhile, List.rdropWhile, List.reverse_append, List.reverse_cons, List.append_assoc,
    List.singleton_append, dropWhile_append_cons hc, List.reverse_append, List.reverse_cons,
    List.reverse_reverse, List.append_assoc, List.singleton_append]
  rfl

theorem chomp_cons {c : Char} (hc : isLineEnd c = false) (line : Text) :
    chomp (c :: line) = c :: chomp line :=
  chomp_append_cons hc [] line

/-- Nothing is missing from a line without its end but that end. -/
theorem exists_eq_chomp_append (line : Text) :
    ∃ ending, line = chomp line ++ ending ∧ ∀ c ∈ ending, isLineEnd c = true :=
  ⟨line.rtakeWhile isLineEnd, List.rdropWhile_append_rtakeWhile.symm, fun _ => List.mem_rtakeWhile_imp⟩

theorem isBlank_of_isLineEnd {c : Char} (h : isLineEnd c = true) : isBlank c = true := by
  rw [isLineEnd, Bool.or_eq_true, decide_eq_true_eq, decide_eq_true_eq] at h
  rcases h with rfl | rfl <;> decide

theorem trim_append_of_isLineEnd (t : Text) {ending : Text} (h : ∀ c ∈ ending, isLineEnd c = true) :
    trim (t ++ ending) = trim t :=
  trim_append_of_isBlank t fun c hc => isBlank_of_isLineEnd (h c hc)

theorem trim_chomp (line : Text) : trim (chomp line) = trim line := by
  obtain ⟨ending, hline, hending⟩ := exists_eq_chomp_append line
  calc trim (chomp line) = trim (chomp line ++ ending) := (trim_append_of_isLineEnd _ hending).symm
    _ = trim line := by rw [← hline]

/-- A line with its end is read as the line, if the line itself holds no other end. -/
theorem chomp_append {line ending : Text} (hline : ∀ c ∈ line, isLineEnd c = false)
    (hending : ∀ c ∈ ending, isLineEnd c = true) : chomp (line ++ ending) = line := by
  induction line with
  | nil => exact List.rdropWhile_eq_nil_iff.2 hending
  | cons c line ih =>
      rw [List.cons_append, chomp_cons (hline c List.mem_cons_self)]
      rw [ih fun d hd => hline d (List.mem_cons_of_mem _ hd)]

theorem chomp_chomp (line : Text) : chomp (chomp line) = chomp line :=
  List.rdropWhile_idempotent _ line

theorem isBullet_iff {line : Text} : isBullet line = true ↔ bullet <+: line := by
  rw [isBullet, afterBullet?, Option.isSome_iff_exists]
  constructor
  · rintro ⟨rest, hrest⟩
    exact ⟨rest, (after?_eq_some_iff.1 hrest).symm⟩
  · rintro ⟨rest, hrest⟩
    exact ⟨rest, after?_eq_some_iff.2 hrest.symm⟩

theorem afterBullet?_bullet_append (heading : Text) :
    afterBullet? (bullet ++ heading) = some heading := after?_eq_some_iff.2 rfl

theorem afterBullet?_eq_none_iff {line : Text} :
    afterBullet? line = none ↔ isBullet line = false := by
  rw [isBullet, Option.isSome_eq_false_iff, Option.isNone_iff_eq_none]

theorem chomp_bullet_append (rest : Text) : chomp (bullet ++ rest) = bullet ++ chomp rest :=
  chomp_append_cons rfl ['•'] rest

/-- The end of a line has no part in whether it begins an entry. -/
theorem isBullet_chomp (line : Text) : isBullet (chomp line) = isBullet line := by
  rw [Bool.eq_iff_iff, isBullet_iff, isBullet_iff]
  constructor
  · exact fun h => h.trans (chomp_isPrefix line)
  · rintro ⟨rest, rfl⟩
    rw [chomp_bullet_append]
    exact List.prefix_append bullet _

theorem exists_of_isBullet {line : Text} (h : isBullet line = true) :
    ∃ rest, line = '•' :: ' ' :: rest := by
  obtain ⟨rest, rfl⟩ := isBullet_iff.1 h
  exact ⟨rest, rfl⟩

/-- Blank lines and further lines begin no entry. -/
theorem not_isBullet_of_follows {line : Text}
    (h : isBlankLine line = true ∨ isContinuation line = true) : isBullet line = false := by
  rw [Bool.eq_false_iff]
  intro hbullet
  obtain ⟨rest, rfl⟩ := exists_of_isBullet hbullet
  rcases h with hblank | hfurther
  · cases hblank
  · cases hfurther

def spaces (n : Nat) : Text := List.replicate n ' '

theorem span_spaces (n : Nat) {c : Char} (hc : c ≠ ' ') (rest : Text) :
    (spaces n ++ c :: rest).span (· = ' ') = (spaces n, c :: rest) := by
  apply span_append
  · exact fun d hd => decide_eq_true (List.eq_of_mem_replicate hd)
  · rintro d ⟨⟩
    exact decide_eq_false hc

theorem ne_space_of_not_isBlank {c : Char} (hc : isBlank c = false) : c ≠ ' ' := by
  rintro rfl
  exact absurd hc (by decide)

theorem isBlankLine_of_mem {line : Text} {c : Char} (hmem : c ∈ line) (hc : isBlank c = false) :
    isBlankLine line = false := by
  rw [isBlankLine, List.all_eq_false]
  exact ⟨c, hmem, by simp [hc]⟩

/-- Behind five spaces or more, the next character tells whether a line goes on with a property. -/
theorem isContinuation_of_spaces {n : Nat} {c : Char} (hn : 5 ≤ n) (hc : c ≠ ' ') (rest : Text) :
    isContinuation (spaces n ++ c :: rest) = !isBlank c := by
  rw [isContinuation, span_spaces n hc]
  simp [spaces, hn]

theorem isContinuation_spaces {n : Nat} {c : Char} (hn : 5 ≤ n) (hc : isBlank c = false)
    (rest : Text) : isContinuation (spaces n ++ c :: rest) = true := by
  rw [isContinuation_of_spaces hn (ne_space_of_not_isBlank hc), hc]
  rfl

theorem not_isContinuation_spaces {n : Nat} {c : Char} (hn : n < 5) (hc : c ≠ ' ')
    (rest : Text) : isContinuation (spaces n ++ c :: rest) = false := by
  rw [isContinuation, span_spaces n hc]
  simp [spaces, Nat.not_le.2 hn]

/-- Lines that show something right behind the indentation of properties, and more after it. -/
def AtIndent (line : Text) : Prop :=
  ∃ c rest, line = spaces propertyIndent ++ c :: rest ∧ c ≠ ' ' ∧ ∃ d ∈ rest, isBlank d = false

namespace AtIndent

variable {line : Text}

theorem isBlankLine_eq (h : AtIndent line) : isBlankLine line = false := by
  obtain ⟨c, rest, rfl, -, d, hd, hblank⟩ := h
  exact isBlankLine_of_mem (List.mem_append_right _ (List.mem_cons_of_mem _ hd)) hblank

theorem isContinuation_eq (h : AtIndent line) : isContinuation line = false := by
  obtain ⟨c, rest, rfl, hc, -⟩ := h
  exact not_isContinuation_spaces (by decide) hc rest

theorem isBullet_eq (h : AtIndent line) : isBullet line = false := by
  obtain ⟨c, rest, rfl, -⟩ := h
  rfl

/-- Whatever was read before, such a line is neither blank nor a further line of a property. -/
theorem value_readLine (h : AtIndent line) (d : Draft) :
    (d.readLine line).value = (d.readHeader line).value := by
  rw [Draft.readLine, h.isBlankLine_eq, h.isContinuation_eq]
  cases d.active <;> rfl

end AtIndent

/-- A line that is indented deeper shows a space there. -/
theorem not_atIndent_spaces {n : Nat} (hn : 5 ≤ n) (rest : Text) : ¬AtIndent (spaces n ++ rest) := by
  rintro ⟨c, behind, heq, hc, -⟩
  obtain ⟨k, rfl⟩ := Nat.exists_eq_add_of_le hn
  have hdeep : spaces (5 + k) ++ rest = spaces propertyIndent ++ ' ' :: (spaces k ++ rest) := by
    rw [spaces, List.replicate_add, List.append_assoc]
    rfl
  rw [hdeep] at heq
  exact hc (List.cons.inj (List.append_cancel_left heq)).1.symm

theorem unindent_spaces (width n : Nat) {c : Char} (hc : c ≠ ' ') (rest : Text) :
    unindent width (spaces n ++ c :: rest) = spaces (n - width) ++ c :: rest := by
  rw [unindent, span_spaces n hc]
  simp [spaces]

end AgendaLinks.Listing
