import AgendaLinks.Proofs.Listing.Printer
import Mathlib.Data.Option.Basic

/-!
Reading the lines of one property. The line with its name is told apart from dates and further lines and
sets the property. A further line that is shown extends it at once; an empty one is kept pending until a
shown one follows. In both cases the settled event is extended by one line.
-/

namespace AgendaLinks.Listing

open Text

/-- An event with a property as another event has it. -/
def copyProperty (source e : Event) : Property → Event
  | .location => { e with location := source.location }
  | .notes => { e with notes := source.notes }
  | .url => { e with url := source.url }
  | .attendees => { e with attendees := source.attendees }

theorem extendProperty_setProperty {p : Property} (hp : p.keepsBlankLines = true) (e : Event)
    (value line : Text) :
    extendProperty (setProperty e value p) line p = setProperty e (value ++ '\n' :: line) p := by
  cases p with
  | location => rfl
  | notes => rfl
  | url => cases hp
  | attendees => cases hp

/-- A line with a property shows a word after the indentation, and a colon right behind it. -/
theorem exists_of_property? {indent : Nat} {line name value : Text}
    (h : property? indent line = some (name, value)) :
    ∃ rest, line = spaces indent ++ (name ++ ':' :: rest) ∧ name ≠ [] ∧
      ∀ c ∈ name, isWord c = true := by
  simp only [property?, Option.bind_eq_bind, Option.bind_eq_some_iff, Option.guard_eq_some',
    Option.pure_def, Option.some.injEq, Prod.mk.injEq] at h
  obtain ⟨shown, hshown, -, hname, rest, hrest, -, -, rfl, -⟩ := h
  rw [List.span_eq_takeWhile_dropWhile] at hname hrest ⊢
  dsimp only at hname hrest ⊢
  refine ⟨rest, ?_, hname, fun c hc => List.mem_takeWhile_imp hc⟩
  have hcut : shown = shown.takeWhile isWord ++ ':' :: rest := by
    calc shown = shown.takeWhile isWord ++ shown.dropWhile isWord :=
          List.takeWhile_append_dropWhile.symm
      _ = shown.takeWhile isWord ++ ':' :: rest := by rw [after?_eq_some_iff.1 hrest]; rfl
  rw [after?_eq_some_iff.1 hshown, ← hcut]
  rfl

/-- Where a property has its name or the colon behind it, a date has a digit or a hyphen. -/
theorem isDateLine_of_property? {line name value : Text}
    (h : property? propertyIndent line = some (name, value)) : isDateLine line = false := by
  obtain ⟨rest, rfl, hne, hword⟩ := exists_of_property? h
  have hafter : after? (List.replicate propertyIndent ' ')
      (spaces propertyIndent ++ (name ++ ':' :: rest)) = some (name ++ ':' :: rest) :=
    after?_eq_some_iff.2 rfl
  rw [isDateLine, hafter, Bool.eq_false_iff]
  intro hdate
  simp only [startsWithDate, Bool.and_eq_true, beq_iff_eq] at hdate
  obtain ⟨⟨⟨⟨⟨⟨⟨-, hdigits⟩, hhyphen⟩, -⟩, -⟩, -⟩, -⟩, -⟩ := hdate
  by_cases hlong : 4 < name.length
  · -- the hyphen is in the name
    rw [List.getElem?_append_left hlong] at hhyphen
    exact absurd (hword '-' (List.mem_of_getElem? hhyphen)) (by decide)
  · by_cases hfour : name.length = 4
    · -- the hyphen is where the colon is
      rw [List.getElem?_append_right (by omega), hfour] at hhyphen
      simp at hhyphen
    · -- the colon is among the digits of the year
      have hcolon : ':' ∈ (name ++ ':' :: rest).take 4 := by
        apply List.mem_of_getElem? (i := name.length)
        rw [List.getElem?_take_of_lt (by omega), List.getElem?_append_right (Nat.le_refl _),
          Nat.sub_self]
        rfl
      exact absurd (List.all_eq_true.1 hdigits ':' hcolon) (by decide)

theorem atIndent_of_property? {line name value : Text}
    (h : property? propertyIndent line = some (name, value)) : AtIndent line := by
  obtain ⟨rest, rfl, hne, hword⟩ := exists_of_property? h
  obtain ⟨c, word, rfl⟩ := List.exists_cons_of_ne_nil hne
  refine ⟨c, word ++ ':' :: rest, rfl, ?_, ':', by simp, by decide⟩
  rintro rfl
  exact absurd (hword ' ' List.mem_cons_self) (by decide)

theorem Property.isWord_of_mem_name (p : Property) : ∀ c ∈ p.name, isWord c = true := by
  cases p <;> decide

theorem Property.named?_lower_name (p : Property) : Property.named? (lower p.name) = some p := by
  cases p <;> rfl

theorem guard_eq_some {p : Prop} [Decidable p] (h : p) : (guard p : Option Unit) = some () := if_pos h

/-- A word behind the indentation and a colon right behind it name a property. -/
theorem property?_of_word {indent : Nat} {name value : Text} (hname : name ≠ [])
    (hword : ∀ c ∈ name, isWord c = true) (hline : '\n' ∉ value) :
    property? indent (spaces indent ++ (name ++ ':' :: value)) =
      some (name, (after? [' '] value).getD value) := by
  have hafter : after? (List.replicate indent ' ') (spaces indent ++ (name ++ ':' :: value)) =
      some (name ++ ':' :: value) := after?_eq_some_iff.2 rfl
  have hspan : (name ++ ':' :: value).span isWord = (name, ':' :: value) := by
    apply span_append hword
    rintro c ⟨⟩
    decide
  have hvalue : after? [':'] (':' :: value) = some value := rfl
  rw [property?, hafter, Option.bind_eq_bind, Option.bind_some, hspan]
  dsimp only
  rw [guard_eq_some hname, Option.bind_eq_bind, Option.bind_some, hvalue, Option.bind_some,
    guard_eq_some hline]
  rfl

theorem property?_headerLine (p : Property) {value : Text} (h : '\n' ∉ value) :
    property? propertyIndent (headerLine p value) = some (p.name, value) := by
  have hname : p.name ≠ [] := by cases p <;> decide
  have hline : '\n' ∉ ' ' :: value := by
    rw [List.mem_cons, not_or]
    exact ⟨by decide, h⟩
  exact property?_of_word hname p.isWord_of_mem_name hline

namespace Draft

/-- Whatever was read before, a line with a property sets it. -/
theorem value_readLine_named (d : Draft) {line name value : Text}
    (h : property? propertyIndent line = some (name, value)) :
    (d.readLine line).value = (d.setNamed name value).value := by
  rw [(atIndent_of_property? h).value_readLine, readHeader, isDateLine_of_property? h, h]
  rfl

theorem value_readLine_headerLine (d : Draft) (p : Property) {value : Text} (h : '\n' ∉ value) :
    (d.readLine (headerLine p value)).value = ⟨setProperty d.event value p, some p, 0⟩ := by
  rw [d.value_readLine_named (property?_headerLine p h), setNamed, p.named?_lower_name]
  rfl

theorem readLines_append (d : Draft) (first second : List Text) :
    d.readLines (first ++ second) = d.readLines first >>= fun d' => d'.readLines second := by
  induction first generalizing d with
  | nil => rw [List.nil_append, readLines, pure_bind]
  | cons line first ih =>
      rw [List.cons_append, readLines, readLines, bind_assoc]
      congr 1
      funext d'
      exact ih d'

/-- The event of a draft with the blank lines that are pending. -/
def settled (d : Draft) (p : Property) : Event :=
  Nat.repeat (fun e => extendProperty e [] p) d.pending d.event

theorem value_readLine_of_blank (d : Draft) {line : Text} (h : isBlankLine line = true) :
    (d.readLine line).value = d.skipBlank := by
  rw [readLine, if_pos h]
  rfl

theorem value_readLine_of_further {d : Draft} {p : Property} (hactive : d.active = some p)
    {line : Text} (hblank : isBlankLine line = false) (hfurther : isContinuation line = true) :
    (d.readLine line).value = d.extend p line := by
  rw [readLine, if_neg (Bool.eq_false_iff.1 hblank), hactive]
  dsimp only
  rw [if_pos hfurther]
  rfl

theorem value_readLine_shown {d : Draft} {p : Property} (hactive : d.active = some p) {line : Text}
    (hline : Shown line) :
    (d.readLine (furtherLine p line)).value = ⟨extendProperty (d.settled p) line p, some p, 0⟩ := by
  obtain ⟨n, c, rest, rfl, hc⟩ := hline
  have hfurther : furtherLine p (spaces n ++ c :: rest) =
      spaces (propertyIndent + p.name.length + 2 + n) ++ c :: rest := by
    rw [furtherLine, if_neg (by simp), ← List.append_assoc, spaces, spaces, spaces,
      List.replicate_append_replicate]
  have hname : 0 < p.name.length := by cases p <;> decide
  have hwide : 5 ≤ propertyIndent + p.name.length + 2 + n := by
    rw [propertyIndent]
    omega
  have hblank : isBlankLine (spaces (propertyIndent + p.name.length + 2 + n) ++ c :: rest) = false :=
    isBlankLine_of_mem (List.mem_append_right _ List.mem_cons_self) hc
  rw [hfurther, value_readLine_of_further hactive hblank (isContinuation_spaces hwide hc rest), extend,
    unindent_spaces _ _ (ne_space_of_not_isBlank hc), Nat.add_sub_cancel_left, hactive]
  rfl

theorem value_readLine_nil {d : Draft} {p : Property} (hactive : d.active = some p)
    (hp : p.keepsBlankLines = true) : (d.readLine []).value = { d with pending := d.pending + 1 } := by
  rw [d.value_readLine_of_blank rfl, skipBlank, hactive, Option.any_some, if_pos hp]

/-- Lines that a value goes on with: shown ones, and empty ones if the property keeps them. -/
def CanFollow (p : Property) (line : Text) : Prop :=
  Shown line ∨ (line = [] ∧ p.keepsBlankLines = true)

/-- A further line extends the settled event, whether it is taken over at once or kept pending. -/
theorem settled_readLine {d : Draft} {p : Property} (hactive : d.active = some p) {line : Text}
    (hline : CanFollow p line) :
    ((d.readLine (furtherLine p line)).value.active = some p) ∧
      (d.readLine (furtherLine p line)).value.settled p = extendProperty (d.settled p) line p := by
  rcases hline with hshown | ⟨rfl, hkeeps⟩
  · rw [value_readLine_shown hactive hshown]
    exact ⟨rfl, rfl⟩
  · rw [furtherLine, if_pos rfl, value_readLine_nil hactive hkeeps]
    exact ⟨hactive, rfl⟩

theorem settled_readLines {d : Draft} {p : Property} (hactive : d.active = some p)
    {lines : List Text} (hlines : ∀ line ∈ lines, CanFollow p line) :
    ((d.readLines (lines.map (furtherLine p))).value.active = some p) ∧
      (d.readLines (lines.map (furtherLine p))).value.settled p =
        lines.foldl (fun e line => extendProperty e line p) (d.settled p) := by
  induction lines generalizing d with
  | nil => exact ⟨hactive, rfl⟩
  | cons line lines ih =>
      obtain ⟨hactive', hsettled⟩ := settled_readLine hactive (hlines line List.mem_cons_self)
      rw [List.map_cons, readLines, Logged.value_bind, List.foldl_cons, ← hsettled]
      exact ih hactive' fun l hl => hlines l (List.mem_cons_of_mem _ hl)

/-- If the last line is not empty, none is left pending. -/
theorem value_readLines_further {e : Event} {p : Property} {lines : List Text}
    (hlines : ∀ line ∈ lines, CanFollow p line) (hlast : lines.getLast? ≠ some []) :
    ((⟨e, some p, 0⟩ : Draft).readLines (lines.map (furtherLine p))).value =
      ⟨lines.foldl (fun e line => extendProperty e line p) e, some p, 0⟩ := by
  rcases List.eq_nil_or_concat lines with rfl | ⟨former, last, rfl⟩
  · rfl
  · have hformer : ∀ line ∈ former, CanFollow p line := fun line hline =>
      hlines line (by simp [hline])
    obtain ⟨hactive, hsettled⟩ := settled_readLines (d := ⟨e, some p, 0⟩) rfl hformer
    have hshown : Shown last := by
      rcases hlines last (by simp) with hshown | ⟨rfl, -⟩
      · exact hshown
      · exact absurd (by simp) hlast
    rw [List.concat_eq_append, List.map_append, readLines_append, Logged.value_bind, List.map_singleton,
      readLines, Logged.value_bind, value_readLine_shown hactive hshown, hsettled,
      List.foldl_append]
    rfl

theorem value_readLines_propertyLines (d : Draft) {p : Property} {first : Text} {rest : List Text}
    (hfirst : '\n' ∉ first) (hrest : ∀ line ∈ rest, CanFollow p line)
    (hlast : rest.getLast? ≠ some []) :
    (d.readLines (propertyLines p (first :: rest))).value =
      ⟨rest.foldl (fun e line => extendProperty e line p) (setProperty d.event first p), some p, 0⟩ := by
  rw [propertyLines, readLines, Logged.value_bind, value_readLine_headerLine d p hfirst]
  exact value_readLines_further hrest hlast

end Draft

end AgendaLinks.Listing
