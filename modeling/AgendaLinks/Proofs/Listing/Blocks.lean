import AgendaLinks.Proofs.Listing.Dates
import AgendaLinks.Proofs.Listing.Values
import Mathlib.Data.List.Nodup

/-!
The lines below a heading fall into blocks: a line of dates or one with a property, and the lines up to
the next such line. A block changes nothing but what it is about, and what it makes of that has nothing to
do with the event so far. So blocks about different things may come in any order, and one about a property
that events do not have may be left out.
-/

namespace AgendaLinks.Listing

open Text

/-- What a block is about: the dates, or a property by its name in small letters. -/
inductive Topic where
  | dates
  | property (name : Text)
  deriving DecidableEq, Repr

namespace Topic

/-- The topic that a line begins. -/
def ofLine? (line : Text) : Option Topic :=
  if isDateLine line then some .dates
  else (property? propertyIndent line).map fun named => .property (lower named.1)

/-- Properties that events do not have. -/
def IsUnknown (t : Topic) : Prop := ∃ name, t = .property name ∧ Property.named? name = none

theorem ofLine?_eq_some {line : Text} {t : Topic} (h : ofLine? line = some t) :
    (isDateLine line = true ∧ t = .dates) ∨
      ∃ name value, property? propertyIndent line = some (name, value) ∧ t = .property (lower name) := by
  unfold ofLine? at h
  split_ifs at h with hdate
  · exact Or.inl ⟨hdate, (Option.some.inj h).symm⟩
  · obtain ⟨⟨name, value⟩, hnamed, rfl⟩ := Option.map_eq_some_iff.1 h
    exact Or.inr ⟨name, value, hnamed, rfl⟩

theorem atIndent_of_ofLine? {line : Text} {t : Topic} (h : ofLine? line = some t) : AtIndent line := by
  rcases ofLine?_eq_some h with ⟨hdate, -⟩ | ⟨name, value, hnamed, -⟩
  · exact atIndent_of_isDateLine hdate
  · exact atIndent_of_property? hnamed

theorem ofLine?_eq_none {line : Text} (h : ofLine? line = none) :
    isDateLine line = false ∧ property? propertyIndent line = none := by
  unfold ofLine? at h
  split_ifs at h with hdate
  exact ⟨Bool.eq_false_iff.2 hdate, Option.map_eq_none_iff.1 h⟩

end Topic

theorem extendProperty_copyProperty (source e : Event) (value : Text) (p : Property) :
    extendProperty (copyProperty source e p) value p =
      copyProperty (extendProperty source value p) e p := by
  cases p <;> rfl

theorem setProperty_eq_copyProperty (source e : Event) (value : Text) (p : Property) :
    setProperty e value p = copyProperty (setProperty source value p) e p := by
  cases p <;> rfl

theorem copyProperty_comm {p q : Property} (h : p ≠ q) (source source' e : Event) :
    copyProperty source (copyProperty source' e q) p =
      copyProperty source' (copyProperty source e p) q := by
  cases p <;> cases q <;> first | rfl | exact absurd rfl h

namespace Draft

/-- A draft with the property as it is, of an event that is otherwise another one. -/
def within (d : Draft) (e : Event) (p : Property) : Draft :=
  { d with event := copyProperty d.event e p }

theorem value_readLine_plain (d : Draft) {line : Text} (h : Topic.ofLine? line = none) :
    (d.readLine line).value =
      if isBlankLine line then d.skipBlank
      else match d.active with
        | some p => if isContinuation line then d.extend p line else { d with pending := 0 }
        | none => { d with pending := 0 } := by
  obtain ⟨hdate, hnamed⟩ := Topic.ofLine?_eq_none h
  have hheader : (d.readHeader line).value = { d with pending := 0 } := by
    rw [readHeader, hdate, hnamed]
    rfl
  obtain ⟨e, active, pending⟩ := d
  by_cases hblank : isBlankLine line = true
  · rw [if_pos hblank, value_readLine_of_blank _ hblank]
  · rw [if_neg hblank]
    cases active with
    | none =>
        rw [readLine, if_neg hblank]
        exact hheader
    | some p =>
        dsimp only
        by_cases hfurther : isContinuation line = true
        · rw [if_pos hfurther, value_readLine_of_further rfl (Bool.eq_false_iff.2 hblank) hfurther]
        · rw [if_neg hfurther, readLine, if_neg hblank]
          dsimp only
          rw [if_neg hfurther]
          exact hheader

theorem active_readLine_plain (d : Draft) {line : Text} (h : Topic.ofLine? line = none) :
    (d.readLine line).value.active = d.active := by
  obtain ⟨e, active, pending⟩ := d
  rw [value_readLine_plain _ h, skipBlank]
  cases active with
  | none => split_ifs <;> rfl
  | some p => split_ifs <;> rfl

/-- Without an active property nothing is taken over. -/
theorem event_readLine_plain {d : Draft} (hactive : d.active = none) {line : Text}
    (h : Topic.ofLine? line = none) : (d.readLine line).value.event = d.event := by
  rw [d.value_readLine_plain h, skipBlank, hactive]
  split_ifs <;> rfl

theorem extend_within (d : Draft) (e : Event) (p : Property) (line : Text) :
    (d.within e p).extend p line = (d.extend p line).within e p := by
  have hspaced (n : Nat) : Nat.repeat (fun e => extendProperty e [] p) n (copyProperty d.event e p) =
      copyProperty (Nat.repeat (fun e => extendProperty e [] p) n d.event) e p := by
    induction n with
    | zero => rfl
    | succ n ih => rw [Nat.repeat, ih, extendProperty_copyProperty, Nat.repeat]
  rw [extend, extend, within, within]
  simp only [hspaced, extendProperty_copyProperty]

/-- What the active property becomes has nothing to do with the rest of the event. -/
theorem value_readLine_within {d : Draft} {p : Property} (hactive : d.active = some p) {line : Text}
    (h : Topic.ofLine? line = none) (e : Event) :
    ((d.within e p).readLine line).value = (d.readLine line).value.within e p := by
  have hactive' : (d.within e p).active = some p := hactive
  rw [value_readLine_plain _ h, value_readLine_plain _ h, hactive, hactive']
  by_cases hblank : isBlankLine line = true
  · rw [if_pos hblank, if_pos hblank, skipBlank, skipBlank, hactive, hactive']
    split_ifs <;> rfl
  · rw [if_neg hblank, if_neg hblank]
    dsimp only
    by_cases hfurther : isContinuation line = true
    · rw [if_pos hfurther, if_pos hfurther]
      exact d.extend_within e p line
    · rw [if_neg hfurther, if_neg hfurther]
      rfl

section

variable {lines : List Text} (hlines : ∀ line ∈ lines, Topic.ofLine? line = none)

include hlines

theorem event_readLines_plain {d : Draft} (hactive : d.active = none) :
    (d.readLines lines).value.event = d.event := by
  induction lines generalizing d with
  | nil => rfl
  | cons line lines ih =>
      obtain ⟨hline, hrest⟩ := List.forall_mem_cons.1 hlines
      rw [readLines, Logged.value_bind, ih hrest, event_readLine_plain hactive hline]
      rw [d.active_readLine_plain hline, hactive]

theorem value_readLines_within {d : Draft} {p : Property} (hactive : d.active = some p) (e : Event) :
    ((d.within e p).readLines lines).value = (d.readLines lines).value.within e p := by
  induction lines generalizing d with
  | nil => rfl
  | cons line lines ih =>
      obtain ⟨hline, hrest⟩ := List.forall_mem_cons.1 hlines
      rw [readLines, readLines, Logged.value_bind, Logged.value_bind,
        value_readLine_within hactive hline]
      apply ih hrest
      rw [d.active_readLine_plain hline, hactive]

end

end Draft

/-- What the lines of a block make of an event: boundaries that they name, a property as they tell it, or
nothing. -/
inductive Change where
  | dates (start finish : Option Boundary)
  | property (p : Property) (source : Event)
  | nothing

namespace Change

def apply : Change → Event → Event
  | .dates start finish, e =>
      withPairs e ((start.map Boundary.pair).getD (startPair e))
        ((finish.map Boundary.pair).getD (endPair e))
  | .property p source, e => copyProperty source e p
  | .nothing, e => e

/-- Changes that a block about a topic can make. -/
inductive About : Topic → Change → Prop
  | dates (start finish : Option Boundary) : About .dates (.dates start finish)
  | property {name : Text} {p : Property} (h : Property.named? name = some p) (source : Event) :
      About (.property name) (.property p source)
  | nothing {name : Text} (h : Property.named? name = none) : About (.property name) .nothing

theorem dates_property_comm (start finish : Option Boundary) (p : Property) (source e : Event) :
    (Change.dates start finish).apply (copyProperty source e p) =
      copyProperty source ((Change.dates start finish).apply e) p := by
  cases p <;> rfl

/-- Changes about different topics may come in either order. -/
theorem apply_comm {t t' : Topic} {c c' : Change} (h : About t c) (h' : About t' c') (hne : t ≠ t')
    (e : Event) : c.apply (c'.apply e) = c'.apply (c.apply e) := by
  cases h with
  | nothing => rfl
  | dates start finish =>
      cases h' with
      | nothing => rfl
      | dates => exact absurd rfl hne
      | property hnamed source => exact dates_property_comm start finish _ source e
  | @property name p hnamed source =>
      cases h' with
      | nothing => rfl
      | dates start finish => exact (dates_property_comm start finish p source e).symm
      | @property name' q hnamed' source' =>
          apply copyProperty_comm
          -- one property has one name
          rintro rfl
          have hname := List.find?_some hnamed
          have hname' := List.find?_some hnamed'
          rw [decide_eq_true_eq] at hname hname'
          exact hne (by rw [← hname, ← hname'])

end Change

/-- A line that begins a topic, and the lines up to the next one, as they stand in a listing. -/
structure Block where
  header : Text
  rest : List Text
  topic : Topic
  begins : Topic.ofLine? (chomp header) = some topic
  plain : ∀ line ∈ rest, isBullet line = false ∧ Topic.ofLine? (chomp line) = none

namespace Block

def lines (b : Block) : List Text := b.header :: b.rest

/-- What a block makes of an event. -/
def apply (b : Block) (e : Event) : Event :=
  ((⟨e, none, 0⟩ : Draft).readLines (b.lines.map chomp)).value.event

theorem not_isBullet_of_mem_lines (b : Block) : ∀ line ∈ b.lines, isBullet line = false := by
  rw [lines, List.forall_mem_cons, ← isBullet_chomp]
  exact ⟨(Topic.atIndent_of_ofLine? b.begins).isBullet_eq, fun line hline => (b.plain line hline).1⟩

/-- Whatever was read before, a block makes one and the same change, about its topic. -/
theorem exists_change (b : Block) : ∃ c, Change.About b.topic c ∧
    ∀ d : Draft, (d.readLines (b.lines.map chomp)).value.event = c.apply d.event := by
  have hrest : ∀ line ∈ b.rest.map chomp, Topic.ofLine? line = none := by
    rw [List.forall_mem_map]
    exact fun line hline => (b.plain line hline).2
  have hread (d : Draft) : (d.readLines (b.lines.map chomp)).value =
      ((d.readLine (chomp b.header)).value.readLines (b.rest.map chomp)).value := rfl
  rcases Topic.ofLine?_eq_some b.begins with ⟨hdate, htopic⟩ | ⟨name, value, hnamed, htopic⟩
  · refine ⟨.dates (namedStart? (chomp b.header)) (namedEnd? (chomp b.header)), ?_, fun d => ?_⟩
    · rw [htopic]
      exact .dates _ _
    · rw [hread, d.value_readLine_dates hdate, Draft.event_readLines_plain hrest rfl,
        Draft.event_setDates]
      rfl
  · rw [htopic]
    cases hp : Property.named? (lower name) with
    | none =>
        refine ⟨.nothing, .nothing hp, fun d => ?_⟩
        have hheader : (d.readLine (chomp b.header)).value = ⟨d.event, none, 0⟩ := by
          rw [d.value_readLine_named hnamed, Draft.setNamed, hp]
          rfl
        rw [hread, hheader, Draft.event_readLines_plain hrest rfl]
        rfl
    | some p =>
        -- the property is told by reading the block for any event
        let source : Draft := ⟨setProperty { title := [], calendar := [] } value p, some p, 0⟩
        refine ⟨.property p (source.readLines (b.rest.map chomp)).value.event, .property hp _,
          fun d => ?_⟩
        have hheader : (d.readLine (chomp b.header)).value = source.within d.event p := by
          rw [d.value_readLine_named hnamed, Draft.setNamed, hp]
          show (⟨setProperty d.event value p, some p, 0⟩ : Draft) = _
          rw [setProperty_eq_copyProperty { title := [], calendar := [] } d.event]
          rfl
        rw [hread, hheader, Draft.value_readLines_within hrest rfl]
        rfl

theorem event_readLines (b : Block) (d : Draft) :
    (d.readLines (b.lines.map chomp)).value.event = b.apply d.event := by
  obtain ⟨c, -, hc⟩ := b.exists_change
  rw [hc d, apply, hc ⟨d.event, none, 0⟩]

theorem apply_comm {b b' : Block} (h : b.topic ≠ b'.topic) (e : Event) :
    b.apply (b'.apply e) = b'.apply (b.apply e) := by
  obtain ⟨c, habout, hc⟩ := b.exists_change
  obtain ⟨c', habout', hc'⟩ := b'.exists_change
  have hb (e : Event) : b.apply e = c.apply e := hc ⟨e, none, 0⟩
  have hb' (e : Event) : b'.apply e = c'.apply e := hc' ⟨e, none, 0⟩
  rw [hb, hb', hb', hb, Change.apply_comm habout habout' h]

theorem apply_of_isUnknown {b : Block} (h : b.topic.IsUnknown) (e : Event) : b.apply e = e := by
  obtain ⟨c, habout, hc⟩ := b.exists_change
  obtain ⟨name, htopic, hnone⟩ := h
  rw [htopic] at habout
  rw [apply, hc]
  cases habout with
  | property hp source => rw [hnone] at hp; cases hp
  | nothing => rfl

end Block

theorem event_readLines_blocks (blocks : List Block) (d : Draft) :
    (d.readLines ((blocks.flatMap Block.lines).map chomp)).value.event =
      blocks.foldl (fun e b => b.apply e) d.event := by
  induction blocks generalizing d with
  | nil => rfl
  | cons b blocks ih =>
      rw [List.flatMap_cons, List.map_append, Draft.readLines_append, Logged.value_bind, ih,
        b.event_readLines, List.foldl_cons]

theorem foldl_apply_perm {blocks blocks' : List Block} (h : blocks'.Perm blocks)
    (htopics : (blocks.map Block.topic).Nodup) (e : Event) :
    blocks'.foldl (fun e b => b.apply e) e = blocks.foldl (fun e b => b.apply e) e := by
  apply h.foldl_eq'
  intro b hb b' hb' e
  by_cases htopic : b.topic = b'.topic
  · rw [List.inj_on_of_nodup_map htopics (h.mem_iff.1 hb) (h.mem_iff.1 hb') htopic]
  · exact (Block.apply_comm htopic e).symm

theorem value_readEvents_blocks {ε : Type} {known : List Calendar} {first heading : Text} {e : Event}
    (hfirst : afterBullet? (chomp first) = some heading)
    (hknown : startEvent (known.map (·.title)) heading = some e) (blocks : List Block) :
    (readEvents known (acceptAll : Filter ε) (first :: blocks.flatMap Block.lines)).value =
      .ok [blocks.foldl (fun e b => b.apply e) e] := by
  have hrest : ∀ line ∈ blocks.flatMap Block.lines, isBullet line = false := by
    intro line hline
    obtain ⟨b, -, hb⟩ := List.mem_flatMap.1 hline
    exact b.not_isBullet_of_mem_lines line hb
  rw [value_readEvents_of_startEvent hfirst hknown hrest, event_readLines_blocks]

/-- Below a heading of a known calendar blocks about different topics give the same event in any order,
whatever lines go on with them, and any block about a property that events do not have can be left out. -/
theorem readEvents_blocks {ε : Type} {known : List Calendar} {first heading : Text}
    (hfirst : afterBullet? (chomp first) = some heading)
    (hknown : (startEvent (known.map (·.title)) heading).isSome = true) (blocks : List Block) :
    ∃ e, (readEvents known (acceptAll : Filter ε) (first :: blocks.flatMap Block.lines)).value =
        .ok [e] ∧
      ((blocks.map Block.topic).Nodup → ∀ blocks' : List Block, blocks'.Perm blocks →
        (readEvents known (acceptAll : Filter ε) (first :: blocks'.flatMap Block.lines)).value =
          .ok [e]) ∧
      ∀ before b after, blocks = before ++ b :: after → b.topic.IsUnknown →
        (readEvents known (acceptAll : Filter ε)
          (first :: (before ++ after).flatMap Block.lines)).value = .ok [e] := by
  obtain ⟨e, he⟩ := Option.isSome_iff_exists.1 hknown
  refine ⟨_, value_readEvents_blocks hfirst he blocks, fun htopics blocks' hperm => ?_, ?_⟩
  · rw [value_readEvents_blocks hfirst he, foldl_apply_perm hperm htopics]
  · rintro before b after rfl hunknown
    rw [value_readEvents_blocks hfirst he, List.foldl_append, List.foldl_append, List.foldl_cons,
      Block.apply_of_isUnknown hunknown]

/-- Dates, notes that go on after an empty line, and a property that events do not have. -/
theorem readEvents_blocks_review :
    ∃ dates notes status : Block,
      dates.lines = ["    2024-05-01\r\n".toList, "  (all day)".toList] ∧
      notes.lines = ["    Notes: one\n".toList, "\n".toList, "      two".toList, "\n".toList] ∧
      status.lines = ["    status: open".toList, "          still".toList] ∧
      afterBullet? (chomp "• Review (Work)\n".toList) = some "Review (Work)".toList ∧
      (startEvent ["Work".toList] "Review (Work)".toList).isSome = true ∧
      ([dates, notes, status].map Block.topic).Nodup ∧
      [status, notes, dates].Perm [dates, notes, status] ∧ status.topic.IsUnknown ∧
      ∃ e, (readEvents [⟨"Work".toList, none, none⟩] (acceptAll : Filter Empty)
          ("• Review (Work)\n".toList :: [dates, notes, status].flatMap Block.lines)).value = .ok [e] ∧
        (readEvents [⟨"Work".toList, none, none⟩] (acceptAll : Filter Empty)
          ("• Review (Work)\n".toList :: [status, notes, dates].flatMap Block.lines)).value = .ok [e] ∧
        (readEvents [⟨"Work".toList, none, none⟩] (acceptAll : Filter Empty)
          ("• Review (Work)\n".toList :: [dates, notes].flatMap Block.lines)).value = .ok [e] := by
  let dates : Block := {
    header := "    2024-05-01\r\n".toList
    rest := ["  (all day)".toList]
    topic := .dates
    begins := by decide
    plain := by decide }
  let notes : Block := {
    header := "    Notes: one\n".toList
    rest := ["\n".toList, "      two".toList, "\n".toList]
    topic := .property "notes".toList
    begins := by decide
    plain := by decide }
  let status : Block := {
    header := "    status: open".toList
    rest := ["          still".toList]
    topic := .property "status".toList
    begins := by decide
    plain := by decide }
  have hfirst : afterBullet? (chomp "• Review (Work)\n".toList) = some "Review (Work)".toList := by
    decide
  have hknown : (startEvent ["Work".toList] "Review (Work)".toList).isSome = true := by decide
  have htopics : ([dates, notes, status].map Block.topic).Nodup := by decide
  have hperm : [status, notes, dates].Perm [dates, notes, status] := List.reverse_perm [dates, notes, status]
  have hunknown : status.topic.IsUnknown := ⟨_, rfl, by decide⟩
  obtain ⟨e, he, hsame, hless⟩ := @readEvents_blocks Empty [⟨"Work".toList, none, none⟩] _ _
    hfirst hknown [dates, notes, status]
  exact ⟨dates, notes, status, rfl, rfl, rfl, hfirst, hknown, htopics, hperm, hunknown, e, he,
    hsame htopics _ hperm, hless [dates, notes] status [] rfl hunknown⟩

end AgendaLinks.Listing
