import AgendaLinks.Proofs.Listing.Blocks

/-!
Lines below the value of a location or of notes. What has been read of the value, and how many blank lines
wait to be taken over, is told by the lines alone. A line that shows something behind five spaces or more
goes on with the value if the first character behind them is not blank. If a tab or another blank stands
there, the line is lost, and the blank lines before it are not taken over any more.
-/

namespace AgendaLinks.Listing

open Text

/-- The spaces below a property that are not part of its value. -/
def valueIndent (p : Property) : Nat := propertyIndent + p.name.length + 2

/-- What lines below a value add to it. -/
def furtherText (p : Property) (lines : List Text) : Text :=
  lines.flatMap fun line => '\n' :: if isBlankLine line then [] else unindent (valueIndent p) line

/-- The line with a property, and blank lines and further lines below it, as they stand in a listing. -/
structure Passage (p : Property) where
  header : Text
  name : Text
  value : Text
  named : property? propertyIndent (chomp header) = some (name, value)
  lower_name : lower name = p.name
  rest : List Text
  follows : ∀ line ∈ rest, isBlankLine (chomp line) = true ∨ isContinuation (chomp line) = true

namespace Passage

variable {p : Property} (s : Passage p)

def lines : List Text := s.header :: s.rest

/-- The value up to the last line that is not blank. -/
def text : Text := s.value ++ furtherText p ((s.rest.map chomp).rdropWhile isBlankLine)

/-- The number of blank lines after it. -/
def waiting : Nat := ((s.rest.map chomp).rtakeWhile isBlankLine).length

theorem not_isBullet_of_mem_lines : ∀ line ∈ s.lines, isBullet line = false := by
  rw [lines, List.forall_mem_cons, ← isBullet_chomp]
  refine ⟨(atIndent_of_property? s.named).isBullet_eq, fun line hline => ?_⟩
  rw [← isBullet_chomp]
  exact not_isBullet_of_follows (s.follows line hline)

end Passage

theorem Property.named?_name (p : Property) : Property.named? p.name = some p := by
  cases p <;> rfl

theorem furtherText_append (p : Property) (first second : List Text) :
    furtherText p (first ++ second) = furtherText p first ++ furtherText p second :=
  List.flatMap_append

/-- Blank lines add line ends and nothing else. -/
theorem furtherText_of_blank {p : Property} {lines : List Text}
    (h : ∀ line ∈ lines, isBlankLine line = true) :
    furtherText p lines = List.replicate lines.length '\n' := by
  induction lines with
  | nil => rfl
  | cons line lines ih =>
      obtain ⟨hline, hrest⟩ := List.forall_mem_cons.1 h
      show '\n' :: (if isBlankLine line then [] else unindent (valueIndent p) line) ++
        furtherText p lines = _
      rw [if_pos hline, ih hrest]
      rfl

/-- The text of all lines is that up to the last one that is not blank, and the blank ones after it. -/
theorem furtherText_eq (p : Property) (lines : List Text) :
    furtherText p lines = furtherText p (lines.rdropWhile isBlankLine) ++
      List.replicate (lines.rtakeWhile isBlankLine).length '\n' := by
  have hblank : ∀ line ∈ lines.rtakeWhile isBlankLine, isBlankLine line = true :=
    fun line hline => List.mem_rtakeWhile_imp hline
  calc furtherText p lines
      = furtherText p (lines.rdropWhile isBlankLine ++ lines.rtakeWhile isBlankLine) := by
        rw [List.rdropWhile_append_rtakeWhile]
    _ = furtherText p (lines.rdropWhile isBlankLine) ++
          List.replicate (lines.rtakeWhile isBlankLine).length '\n' := by
        rw [furtherText_append, furtherText_of_blank hblank]

namespace Draft

/-- A value has just been read, and no blank line waits. -/
def reading (e : Event) (p : Property) (value : Text) : Draft := ⟨setProperty e value p, some p, 0⟩

/-- A further line is taken over together with the blank lines that wait. -/
theorem extend_setProperty {p : Property} (hp : p.keepsBlankLines = true) (e : Event) (value : Text)
    (pending : Nat) (line : Text) :
    (⟨setProperty e value p, some p, pending⟩ : Draft).extend p line =
      reading e p (value ++ (List.replicate pending '\n' ++ '\n' :: unindent (valueIndent p) line)) := by
  have hspaced (n : Nat) : Nat.repeat (fun e => extendProperty e [] p) n (setProperty e value p) =
      setProperty e (value ++ List.replicate n '\n') p := by
    induction n with
    | zero => rw [List.replicate_zero, List.append_nil, Nat.repeat]
    | succ n ih =>
        rw [Nat.repeat, ih, extendProperty_setProperty hp, List.append_assoc, List.replicate_succ']
  rw [extend, reading]
  dsimp only
  rw [hspaced, extendProperty_setProperty hp, List.append_assoc]
  rfl

/-- What blank lines and further lines below a value leave. -/
theorem value_readLines_follows {p : Property} (hp : p.keepsBlankLines = true) (e : Event)
    (value : Text) {lines : List Text}
    (h : ∀ line ∈ lines, isBlankLine line = true ∨ isContinuation line = true) :
    ((reading e p value).readLines lines).value =
      ⟨setProperty e (value ++ furtherText p (lines.rdropWhile isBlankLine)) p, some p,
        (lines.rtakeWhile isBlankLine).length⟩ := by
  -- a line is told by what the lines before it leave, so the induction is on the last line
  induction lines using List.reverseRecOn with
  | nil =>
      rw [List.rdropWhile_nil, List.rtakeWhile_nil, furtherText, List.flatMap_nil, List.append_nil]
      rfl
  | append_singleton lines line ih =>
      have hlines := ih fun l hl => h l (List.mem_append_left _ hl)
      rw [readLines_append, Logged.value_bind, hlines, readLines, Logged.value_bind]
      by_cases hblank : isBlankLine line = true
      · rw [value_readLine_of_blank _ hblank, List.rdropWhile_concat_pos _ _ _ hblank,
          List.rtakeWhile_concat_pos _ _ _ hblank, List.length_append, skipBlank, Option.any_some,
          if_pos hp]
        rfl
      · have hfurther := (h line (by simp)).resolve_left hblank
        rw [value_readLine_of_further rfl (Bool.eq_false_iff.2 hblank) hfurther, extend_setProperty hp,
          List.rdropWhile_concat_neg _ _ _ hblank, List.rtakeWhile_concat_neg _ _ _ hblank,
          furtherText_append, furtherText_eq p lines]
        have hline : furtherText p [line] = '\n' :: unindent (valueIndent p) line := by
          rw [furtherText, List.flatMap_singleton, if_neg hblank]
        rw [hline, reading, List.append_assoc, List.append_assoc]
        rfl

theorem value_readLine_header (d : Draft) {p : Property} (s : Passage p) :
    (d.readLine (chomp s.header)).value = reading d.event p s.value := by
  rw [d.value_readLine_named s.named, setNamed, s.lower_name, p.named?_name]
  rfl

theorem value_readLines_passage (d : Draft) {p : Property} (hp : p.keepsBlankLines = true)
    (s : Passage p) :
    (d.readLines (s.lines.map chomp)).value = ⟨setProperty d.event s.text p, some p, s.waiting⟩ := by
  have hfollows : ∀ line ∈ s.rest.map chomp, isBlankLine line = true ∨ isContinuation line = true := by
    rw [List.forall_mem_map]
    exact s.follows
  rw [Passage.lines, List.map_cons, readLines, Logged.value_bind, d.value_readLine_header s,
    value_readLines_follows hp d.event s.value hfollows]
  rfl

end Draft

/-- A line that shows something behind five spaces or more, which may begin with a blank. -/
structure Deeper (line : Text) where
  indent : Nat
  first : Char
  rest : Text
  eq : line = spaces indent ++ first :: rest
  five_le : 5 ≤ indent
  ne_space : first ≠ ' '
  shown : isBlankLine (first :: rest) = false

namespace Deeper

variable {line : Text} (l : Deeper line)

include l

theorem isBlankLine_eq : isBlankLine line = false := by
  obtain ⟨c, hc, hblank⟩ := List.all_eq_false.1 l.shown
  rw [l.eq]
  exact isBlankLine_of_mem (List.mem_append_right _ hc) (Bool.eq_false_iff.2 hblank)

theorem isContinuation_eq : isContinuation line = !isBlank l.first := by
  calc isContinuation line = isContinuation (spaces l.indent ++ l.first :: l.rest) :=
        congrArg isContinuation l.eq
    _ = !isBlank l.first := isContinuation_of_spaces l.five_le l.ne_space l.rest

theorem ofLine?_eq_none : Topic.ofLine? line = none := by
  rw [Option.eq_none_iff_forall_ne_some]
  intro t ht
  have hindent := Topic.atIndent_of_ofLine? ht
  rw [l.eq] at hindent
  exact not_atIndent_spaces l.five_le _ hindent

theorem isBullet_eq : isBullet line = false := by
  rw [Bool.eq_false_iff]
  intro hbullet
  obtain ⟨rest, hrest⟩ := exists_of_isBullet hbullet
  obtain ⟨k, hk⟩ := Nat.exists_eq_add_of_le l.five_le
  have heq : spaces l.indent ++ l.first :: l.rest = '•' :: ' ' :: rest := l.eq.symm.trans hrest
  rw [hk, spaces, List.replicate_add] at heq
  cases heq

/-- The line without as many leading spaces as stand below the property. -/
def text (p : Property) : Text := spaces (l.indent - valueIndent p) ++ l.first :: l.rest

theorem unindent_eq (p : Property) : unindent (valueIndent p) line = l.text p := by
  calc unindent (valueIndent p) line
      = unindent (valueIndent p) (spaces l.indent ++ l.first :: l.rest) :=
        congrArg (unindent (valueIndent p)) l.eq
    _ = l.text p := unindent_spaces _ _ l.ne_space l.rest

/-- The value that the line leaves of one that blank lines wait behind. -/
def value (p : Property) (before : Text) (waiting : Nat) : Text :=
  if isBlank l.first then before else before ++ (List.replicate waiting '\n' ++ '\n' :: l.text p)

theorem value_readLine {p : Property} (hp : p.keepsBlankLines = true) (e : Event) (before : Text)
    (waiting : Nat) :
    ((⟨setProperty e before p, some p, waiting⟩ : Draft).readLine line).value =
      Draft.reading e p (l.value p before waiting) := by
  by_cases hfirst : isBlank l.first = true
  · have hfurther : isContinuation line = false := by
      rw [l.isContinuation_eq, hfirst]
      rfl
    rw [Draft.value_readLine_plain _ l.ofLine?_eq_none, l.isBlankLine_eq, value, if_pos hfirst]
    simp only [Bool.false_eq_true, if_false, hfurther]
    rfl
  · have hfurther : isContinuation line = true := by
      rw [l.isContinuation_eq, Bool.eq_false_iff.2 hfirst]
      rfl
    rw [Draft.value_readLine_of_further rfl l.isBlankLine_eq hfurther, Draft.extend_setProperty hp,
      l.unindent_eq, value, if_neg hfirst]

end Deeper

/-- After a location or notes, and any blank lines and further lines below, a line that is indented deeper
goes on with the value if it does not begin with a blank behind the spaces. The value is then the one so
far, with a line end for each blank line that waits, another line end, and the line without the spaces
below the property. If it does begin with a blank, the value stays, no blank line waits any longer, and the
line is lost. Either way reading goes on with the same property. -/
theorem readEvents_deeper {ε : Type} {known : List Calendar} {first heading : Text}
    (hfirst : afterBullet? (chomp first) = some heading)
    (hknown : (startEvent (known.map (·.title)) heading).isSome = true)
    {p : Property} (hp : p.keepsBlankLines = true) (s : Passage p) {before after : List Text}
    (hbefore : ∀ line ∈ before, isBullet line = false)
    (hafter : ∀ line ∈ after, isBullet line = false) {raw : Text} (l : Deeper (chomp raw)) :
    ∃ e, (readEvents known (acceptAll : Filter ε) (first :: (before ++ s.lines))).value =
        .ok [setProperty e s.text p] ∧
      (readEvents known (acceptAll : Filter ε) (first :: (before ++ s.lines ++ raw :: after))).value =
        .ok [((Draft.reading e p (l.value p s.text s.waiting)).readLines
          (after.map chomp)).value.event] := by
  obtain ⟨e, he⟩ := Option.isSome_iff_exists.1 hknown
  have hpassage : ∀ line ∈ before ++ s.lines, isBullet line = false :=
    List.forall_mem_append.2 ⟨hbefore, s.not_isBullet_of_mem_lines⟩
  have hraw : isBullet raw = false := by
    rw [← isBullet_chomp]
    exact l.isBullet_eq
  have hall : ∀ line ∈ before ++ s.lines ++ raw :: after, isBullet line = false :=
    List.forall_mem_append.2 ⟨hpassage, List.forall_mem_cons.2 ⟨hraw, hafter⟩⟩
  have hread : (Draft.readLines { event := e } ((before ++ s.lines).map chomp)).value =
      ⟨setProperty (Draft.readLines { event := e } (before.map chomp)).value.event s.text p, some p,
        s.waiting⟩ := by
    rw [List.map_append, Draft.readLines_append, Logged.value_bind,
      Draft.value_readLines_passage _ hp s]
  refine ⟨(Draft.readLines { event := e } (before.map chomp)).value.event, ?_, ?_⟩
  · rw [value_readEvents_of_startEvent hfirst he hpassage, hread]
  · rw [value_readEvents_of_startEvent hfirst he hall, List.map_append, Draft.readLines_append,
      Logged.value_bind, hread, List.map_cons, Draft.readLines, Logged.value_bind,
      l.value_readLine hp]

/-- Notes that go on behind an empty line, with a space more than stands below the property. -/
theorem readEvents_deeper_review :
    afterBullet? (chomp "• Review (Work)\n".toList) = some "Review (Work)".toList ∧
    (startEvent ["Work".toList] "Review (Work)".toList).isSome = true ∧
    ∃ (s : Passage .notes) (l : Deeper (chomp "            three\n".toList)) (e : Event),
      s.lines = ["    Notes: one\n".toList, "      two\n".toList, "\n".toList] ∧
      l.value .notes s.text s.waiting = "one\ntwo\n\n three".toList ∧
      (readEvents [⟨"Work".toList, none, none⟩] (acceptAll : Filter Empty)
        ("• Review (Work)\n".toList :: (["    2024-05-01\n".toList] ++ s.lines))).value =
          .ok [setProperty e "one\ntwo".toList .notes] ∧
      (readEvents [⟨"Work".toList, none, none⟩] (acceptAll : Filter Empty)
        ("• Review (Work)\n".toList :: (["    2024-05-01\n".toList] ++ s.lines ++
          "            three\n".toList :: ["    status: open\n".toList]))).value =
          .ok [((Draft.reading e .notes "one\ntwo\n\n three".toList).readLines
            ["    status: open".toList]).value.event] := by
  let s : Passage .notes := {
    header := "    Notes: one\n".toList
    name := "Notes".toList
    value := "one".toList
    named := by decide
    lower_name := by decide
    rest := ["      two\n".toList, "\n".toList]
    follows := by decide }
  let l : Deeper (chomp "            three\n".toList) := {
    indent := 12
    first := 't'
    rest := "hree".toList
    eq := by decide
    five_le := by decide
    ne_space := by decide
    shown := by decide }
  have hfirst : afterBullet? (chomp "• Review (Work)\n".toList) = some "Review (Work)".toList := by
    decide
  have hknown : (startEvent ["Work".toList] "Review (Work)".toList).isSome = true := by decide
  obtain ⟨e, hbefore, hwhole⟩ := @readEvents_deeper Empty [⟨"Work".toList, none, none⟩] _ _
    hfirst hknown .notes rfl s ["    2024-05-01\n".toList] ["    status: open\n".toList] (by decide)
    (by decide) _ l
  exact ⟨hfirst, hknown, s, l, e, rfl, rfl, hbefore, hwhole⟩

/-- A link behind a tab is lost. -/
theorem readEvents_tab :
    (readEvents [⟨"Work".toList, none, none⟩] (acceptAll : Filter Empty)
      ["• Call (Work)".toList, "    notes: Join".toList,
        "     \thttps://zoom.us/j/1".toList]).value =
      .ok [{ title := "Call".toList, calendar := "Work".toList, notes := some "Join".toList }] := by
  decide +kernel

end AgendaLinks.Listing
