import AgendaLinks.Proofs.Configuration.Schema
import AgendaLinks.Shell.Opener

/-!
Commands as words. A shell cuts a command into words at its blanks. Apostrophes and quotation marks take
the meaning from the characters between them, and a backslash from the character behind it. A link that is
put into a template adds its characters to the word that has its place, and no other word of the command
depends on the link.
-/

namespace AgendaLinks.Shell

open Text

/-- How the next character of a command is read. -/
inductive Quoting where
  /-- Blanks, quotes and backslashes have their meaning. -/
  | bare
  /-- Between apostrophes every other character stands for itself. -/
  | single
  /-- Between quotation marks every other character but the backslash stands for itself. -/
  | double
  /-- Behind a backslash. -/
  | escaped
  /-- Behind a backslash between quotation marks, which stands for itself before most characters. -/
  | escapedInDouble
  deriving DecidableEq, Repr

/-- Why a command has no words. -/
inductive WordFault where
  | openQuote
  | nothingEscaped
  deriving DecidableEq, Repr

/-- A command in the middle of being read. -/
structure Reading where
  words : List Text := []
  /-- The word that is being built, if one has begun. -/
  current : Option Text := none
  quoting : Quoting := .bare
  deriving DecidableEq, Repr

namespace Reading

/-- Characters that end a word. -/
def isSeparator (c : Char) : Bool := c = ' ' || c = '\t' || c = '\r' || c = '\n'

/-- A text at the end of the word that is being built. -/
def add (r : Reading) (t : Text) : Reading := { r with current := some (r.current.getD [] ++ t) }

def step (r : Reading) (c : Char) : Reading :=
  match r.quoting with
  | .bare =>
    if isSeparator c then { r with words := r.words ++ r.current.toList, current := none }
    else if c = '\'' then { r.add [] with quoting := .single }
    else if c = '"' then { r.add [] with quoting := .double }
    else if c = '\\' then { r with quoting := .escaped }
    else r.add [c]
  | .single => if c = '\'' then { r with quoting := .bare } else r.add [c]
  | .double =>
    if c = '"' then { r with quoting := .bare }
    else if c = '\\' then { r with quoting := .escapedInDouble }
    else r.add [c]
  | .escaped => { r.add [c] with quoting := .bare }
  | .escapedInDouble =>
    { r.add (if c = '"' || c = '\\' then [c] else ['\\', c]) with quoting := .double }

/-- What a text makes of a command of which something has been read. -/
def read (r : Reading) (t : Text) : Reading := t.foldl step r

/-- The words of a command that has been read to its end. -/
def finish (r : Reading) : Except WordFault (List Text) :=
  match r.quoting with
  | .bare => .ok (r.words ++ r.current.toList)
  | .single | .double => .error .openQuote
  | .escaped | .escapedInDouble => .error .nothingEscaped

end Reading

/-- The words of a command. -/
def words (command : Text) : Except WordFault (List Text) := (Reading.read {} command).finish

namespace Reading

variable (r : Reading)

@[simp]
theorem read_nil : r.read [] = r := rfl

@[simp]
theorem read_cons (c : Char) (t : Text) : r.read (c :: t) = (r.step c).read t := rfl

theorem read_append (s t : Text) : r.read (s ++ t) = (r.read s).read t := List.foldl_append

@[simp]
theorem quoting_add (t : Text) : (r.add t).quoting = r.quoting := rfl

@[simp]
theorem add_add (s t : Text) : (r.add s).add t = r.add (s ++ t) := by
  simp [add]

/-- The words that are finished do not matter to a step. -/
theorem step_words (ws : List Text) (c : Char) :
    ({ r with words := ws ++ r.words } : Reading).step c =
      { r.step c with words := ws ++ (r.step c).words } := by
  obtain ⟨_, _, quoting⟩ := r
  cases quoting with
  | bare => simp only [step, add]; split_ifs <;> simp
  | single => simp only [step, add]; split_ifs <;> rfl
  | double => simp only [step, add]; split_ifs <;> rfl
  | escaped => rfl
  | escapedInDouble => rfl

theorem finish_words (ws : List Text) :
    ({ r with words := ws ++ r.words } : Reading).finish = r.finish.map (ws ++ ·) := by
  obtain ⟨_, _, quoting⟩ := r
  cases quoting with
  | bare => simp [finish, Except.map]
  | _ => rfl

theorem finish_read_words (ws : List Text) (t : Text) :
    (({ r with words := ws ++ r.words } : Reading).read t).finish =
      (r.read t).finish.map (ws ++ ·) := by
  induction t generalizing r with
  | nil => exact r.finish_words ws
  | cons c t ih => rw [read_cons, step_words, ih, read_cons]

theorem step_plainChar {r : Reading} (hr : r.quoting = .bare) {c : Char} (hc : isPlainChar c = true) :
    r.step c = r.add [c] := by
  have hne : ∀ d, isPlainChar d = false → c ≠ d := by
    rintro d hd rfl
    rw [hd] at hc
    cases hc
  have hseparator : isSeparator c = false := by
    simp only [isSeparator, hne ' ' (by decide), hne '\t' (by decide), hne '\r' (by decide),
      hne '\n' (by decide), decide_false, Bool.or_self]
  simp only [step, hr, hseparator, hne '\'' (by decide), hne '"' (by decide), hne '\\' (by decide),
    Bool.false_eq_true, if_false]

/-- A text of plain characters is read as it stands. -/
theorem read_plain {r : Reading} (hr : r.quoting = .bare) {t : Text} (hempty : t ≠ [])
    (ht : ∀ c ∈ t, isPlainChar c = true) : r.read t = r.add t := by
  induction t generalizing r with
  | nil => exact absurd rfl hempty
  | cons c t ih =>
      rw [read_cons, step_plainChar hr (ht c List.mem_cons_self)]
      by_cases hlast : t = []
      · rw [hlast, read_nil]
      · have hrest : ∀ d ∈ t, isPlainChar d = true := fun d hd => ht d (List.mem_cons_of_mem c hd)
        rw [ih ((r.quoting_add [c]).trans hr) hlast hrest, add_add, List.singleton_append]

/-- Between apostrophes every character stands for itself, and an apostrophe in the text is written
between quotation marks. -/
theorem read_single (ws : List Text) (w t : Text) :
    Reading.read ⟨ws, some w, .single⟩ (replace ['\''] "'\"'\"'".toList t) =
      ⟨ws, some (w ++ t), .single⟩ := by
  have hsub : ['\''] ≠ [] := List.cons_ne_nil _ _
  induction t generalizing w with
  | nil => rw [replace_nil _ hsub, read_nil, List.append_nil]
  | cons c t ih =>
      by_cases hc : c = '\''
      · have hquoted : Reading.read ⟨ws, some w, .single⟩ "'\"'\"'".toList =
            ⟨ws, some (w ++ ['\'']), .single⟩ := by
          simp [step, add, isSeparator]
        rw [hc, ← List.singleton_append (l := t), replace_append_self _ hsub, read_append, hquoted, ih]
        simp
      · have hstep : Reading.step ⟨ws, some w, .single⟩ c = ⟨ws, some (w ++ [c]), .single⟩ := by
          simp [step, add, hc]
        have hnone : after? ['\''] (c :: t) = none := by
          simp [after?, Ne.symm hc]
        rw [replace_cons _ hsub hnone, read_cons, hstep, ih]
        simp

/-- A quoted text is read as its characters, all of which stand for themselves. -/
theorem read_quoted {r : Reading} (hr : r.quoting = .bare) (t : Text) :
    r.read (quoted t) = r.add t := by
  obtain ⟨ws, current, quoting⟩ := r
  obtain rfl : quoting = .bare := hr
  rw [quoted]
  split_ifs with hplain
  · exact read_plain rfl hplain.1 (List.all_eq_true.1 hplain.2)
  · have hstart : Reading.step ⟨ws, current, .bare⟩ '\'' = ⟨ws, some (current.getD []), .single⟩ := by
      simp [step, add, isSeparator]
    rw [List.cons_append, read_cons, hstart, read_append, read_single]
    simp [step, add]

/-- A character goes on with the word or ends it, whatever the word is. -/
theorem step_current (quoting : Quoting) (c : Char) :
    (∃ t quoting', ∀ ws w, Reading.step ⟨ws, some w, quoting⟩ c = ⟨ws, some (w ++ t), quoting'⟩) ∨
      ∀ ws w, Reading.step ⟨ws, some w, quoting⟩ c = ⟨ws ++ [w], none, .bare⟩ := by
  cases quoting with
  | bare =>
      cases hseparator : isSeparator c with
      | true => exact Or.inr fun ws w => by simp [step, hseparator]
      | false =>
          left
          by_cases hsingle : c = '\''
          · exact ⟨[], .single, fun ws w => by simp [step, add, isSeparator, hsingle]⟩
          by_cases hdouble : c = '"'
          · exact ⟨[], .double, fun ws w => by simp [step, add, isSeparator, hdouble]⟩
          by_cases hescape : c = '\\'
          · exact ⟨[], .escaped, fun ws w => by simp [step, isSeparator, hescape]⟩
          exact ⟨[c], .bare, fun ws w => by simp [step, add, hseparator, hsingle, hdouble, hescape]⟩
  | single =>
      by_cases hquote : c = '\''
      · exact Or.inl ⟨[], .bare, fun ws w => by simp [step, hquote]⟩
      · exact Or.inl ⟨[c], .single, fun ws w => by simp [step, add, hquote]⟩
  | double =>
      by_cases hquote : c = '"'
      · exact Or.inl ⟨[], .bare, fun ws w => by simp [step, hquote]⟩
      · by_cases hescape : c = '\\'
        · exact Or.inl ⟨[], .escapedInDouble, fun ws w => by simp [step, hescape]⟩
        · exact Or.inl ⟨[c], .double, fun ws w => by simp [step, add, hquote, hescape]⟩
  | escaped => exact Or.inl ⟨[c], .bare, fun ws w => rfl⟩
  | escapedInDouble => exact Or.inl ⟨_, .double, fun ws w => rfl⟩

/-- What follows in a command goes on with the word that is being built and adds further words, the same
ones whatever the word is. -/
theorem exists_rest (quoting : Quoting) (t : Text) :
    ∃ rest : Except WordFault (Text × List Text), ∀ ws w,
      (Reading.read ⟨ws, some w, quoting⟩ t).finish =
        rest.map fun (more, last) => ws ++ (w ++ more) :: last := by
  induction t generalizing quoting with
  | nil =>
      cases quoting with
      | bare => exact ⟨.ok ([], []), fun ws w => by simp [finish, Except.map]⟩
      | single => exact ⟨.error .openQuote, fun ws w => rfl⟩
      | double => exact ⟨.error .openQuote, fun ws w => rfl⟩
      | escaped => exact ⟨.error .nothingEscaped, fun ws w => rfl⟩
      | escapedInDouble => exact ⟨.error .nothingEscaped, fun ws w => rfl⟩
  | cons c t ih =>
      rcases step_current quoting c with ⟨s, quoting', hstep⟩ | hstep
      · obtain ⟨rest, hrest⟩ := ih quoting'
        refine ⟨rest.map fun (more, last) => (s ++ more, last), fun ws w => ?_⟩
        rw [read_cons, hstep, hrest]
        cases rest with
        | error fault => rfl
        | ok rest => simp [Except.map]
      · -- the words behind the blank are those that a reading from the start would give
        refine ⟨(Reading.read {} t).finish.map fun last => ([], last), fun ws w => ?_⟩
        have hwords := finish_read_words {} (ws ++ [w]) t
        simp only [List.append_nil] at hwords
        rw [read_cons, hstep, hwords]
        cases (Reading.read {} t).finish with
        | error fault => rfl
        | ok last => simp [Except.map]

end Reading

/-- The words of a command with a text in the word that is being built, and what follows. -/
def Reading.around (r : Reading) (t : Text) (rest : Text × List Text) : List Text :=
  r.words ++ (r.current.getD [] ++ t ++ rest.1) :: rest.2

/-- The words of a command tell what follows the text. -/
theorem Reading.rest_unique {r : Reading} {t : Text} {rest rest' : Except WordFault (Text × List Text)}
    (h : rest.map (r.around t) = rest'.map (r.around t)) : rest = rest' := by
  cases rest <;> cases rest' <;> simp_all [Except.map, around, Prod.ext_iff]

theorem Reading.exists_around (r : Reading) (after : Text) :
    ∃ rest : Except WordFault (Text × List Text), ∀ t,
      ((r.add t).read after).finish = rest.map (r.around t) := by
  obtain ⟨rest, hrest⟩ := exists_rest r.quoting after
  exact ⟨rest, fun t => hrest r.words (r.current.getD [] ++ t)⟩

/-- The place that a template has only once is filled. -/
theorem command_eq {before after : Text} (honce : countOf place (before ++ place ++ after) = 1)
    (link : Text) : command (before ++ place ++ after) link = before ++ quoted link ++ after := by
  obtain ⟨only, -, honly⟩ := countOf_placeholder_eq_one_iff.1 honce
  obtain rfl : before = only := honly before ⟨after, rfl⟩
  rw [command, replaceFirst]
  cases hcut : cutAt place (before ++ place ++ after) with
  | none => exact absurd ⟨before, after, rfl⟩ (cutAt_eq_none_iff.1 hcut)
  | some cut =>
      obtain ⟨left, right⟩ := cut
      obtain ⟨htemplate, -⟩ := cutAt_eq_some hcut
      obtain rfl : left = before := honly left ⟨right, htemplate⟩
      simpa using htemplate.symm

/-- The words of a command are those of its template, with the characters of the link in the place of the
mark for it; all of them stand for themselves, and nothing else about the words depends on them. -/
theorem words_command {before after : Text}
    (honce : countOf place (before ++ place ++ after) = 1)
    (hbare : (Reading.read {} before).quoting = .bare) :
    ∃ rest : Except WordFault (Text × List Text),
      words (before ++ place ++ after) = rest.map ((Reading.read {} before).around place) ∧
      ∀ link, words (command (before ++ place ++ after) link) =
        rest.map ((Reading.read {} before).around link) := by
  obtain ⟨rest, hrest⟩ := (Reading.read {} before).exists_around after
  have hplace : (Reading.read {} before).read place = (Reading.read {} before).add place :=
    Reading.read_plain hbare (by decide) (by decide)
  refine ⟨rest, ?_, fun link => ?_⟩
  · rw [words, Reading.read_append, Reading.read_append, hplace, hrest]
  · rw [command_eq honce, words, Reading.read_append, Reading.read_append, Reading.read_quoted hbare,
      hrest]

/-- A link with quotes of both kinds, blanks, a backslash and a mark, in a word that begins before its place
and goes on behind it, and no link at all. -/
theorem words_command_marks :
    let before := "open -a 'My App' u=\"\"".toList
    let after := "'/x y'\\  z".toList
    countOf place (before ++ place ++ after) = 1 ∧ (Reading.read {} before).quoting = .bare ∧
      words (command (before ++ place ++ after) "it's \"a\\ %s;".toList) = .ok ["open".toList,
        "-a".toList, "My App".toList, "u=it's \"a\\ %s;/x y ".toList, "z".toList] ∧
      words (command (before ++ place ++ after) []) = .ok ["open".toList, "-a".toList,
        "My App".toList, "u=/x y ".toList, "z".toList] := by
  intro before after
  have honce : countOf place (before ++ place ++ after) = 1 := by
    decide +kernel
  have hbare : (Reading.read {} before).quoting = .bare := by
    decide
  obtain ⟨rest, htemplate, hlinks⟩ := words_command honce hbare
  have hrest : rest = .ok ("/x y ".toList, ["z".toList]) := by
    apply Reading.rest_unique (htemplate.symm.trans _)
    decide +kernel
  refine ⟨honce, hbare, ?_, ?_⟩
  · rw [hlinks, hrest]
    decide +kernel
  · rw [hlinks, hrest]
    decide +kernel

end AgendaLinks.Shell
