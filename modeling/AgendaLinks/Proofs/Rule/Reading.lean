import AgendaLinks.Configuration.Reader
import AgendaLinks.Proofs.Fallible

/-!
Rules as a document states them. Values of a document are read as patterns and rules by themselves; the
patterns and rules that are made of them accept the same.
-/

namespace AgendaLinks

/-- The texts that an event with a link has under a name. -/
inductive Subject (e : Event) (link : Option Text) : Text → Text → Prop where
  | calendar : Subject e link "calendar".toList e.calendar
  | title : Subject e link "title".toList e.title
  | location {t : Text} : e.location = some t → Subject e link "location".toList t
  | notes {t : Text} : e.notes = some t → Subject e link "notes".toList t
  | url {t : Text} : link = some t → Subject e link "url".toList t
  | attendee {names : List Text} {t : Text} :
      e.attendees = some names → t ∈ names → Subject e link "attendee".toList t

/-- Null matches every text, a text itself, and a regular expression the texts it occurs in. -/
inductive Value.Matches : Value → Text → Prop where
  | null (t : Text) : Matches .null t
  | text (t : Text) : Matches (.text t) t
  | regexp {entries : List (Value × Value)} {source t : Text} {r : Regexp} :
      Value.lookup "type".toList entries = .text "regexp".toList →
      Value.lookup "pattern".toList entries = .text source →
      Regexp.compile source = .ok r → r.occursIn t = true → Matches (.mapping entries) t

/-- A rule holds if it is null or if for every key its value matches a text under the name. -/
inductive Value.RuleHolds (e : Event) (link : Option Text) : Value → Prop where
  | null : RuleHolds e link .null
  | mapping {entries : List (Value × Value)} :
      (∀ entry ∈ entries, ∃ name t, entry.1 = .text name ∧ Subject e link name t ∧ entry.2.Matches t) →
      RuleHolds e link (.mapping entries)

/-- Rules hold if they are null or if one of a list does. -/
inductive Value.RulesHold (e : Event) (link : Option Text) : Value → Prop where
  | null : RulesHold e link .null
  | list {items : List Value} {rule : Value} :
      rule ∈ items → rule.RuleHolds e link → RulesHold e link (.list items)

/-- The first item of a list with a property, if there is one. -/
inductive IsFirst {α : Type} (P : α → Prop) : List α → Option α → Prop where
  | nil : IsFirst P [] none
  | here {x : α} {xs : List α} : P x → IsFirst P (x :: xs) (some x)
  | later {x : α} {xs : List α} {found : Option α} :
      ¬P x → IsFirst P xs found → IsFirst P (x :: xs) found

/-- The first item of one list stands where the first item of the other does. -/
theorem isFirst_of_forall₂ {α β : Type} {xs : List α} {ys : List β} {R : α → β → Prop} {P : α → Prop}
    {q : β → Bool} (h : List.Forall₂ R xs ys) (hq : ∀ x y, R x y → (q y = true ↔ P x)) :
    ∃ found, IsFirst P xs found ∧ Option.Rel R found (ys.find? q) := by
  induction h with
  | nil => exact ⟨none, .nil, .none⟩
  | @cons x y xs ys hxy _ ih =>
      by_cases hx : P x
      · rw [List.find?_cons_of_pos ((hq x y hxy).2 hx)]
        exact ⟨some x, .here hx, .some hxy⟩
      · obtain ⟨found, hfirst, hrel⟩ := ih
        rw [List.find?_cons_of_neg fun hy => hx ((hq x y hxy).1 hy)]
        exact ⟨found, .later hx hfirst, hrel⟩

/-- A mapping stands for a pattern only as a regular expression that can be compiled. -/
theorem Pattern.ofValue_mapping {entries : List (Value × Value)} {p : Pattern}
    (h : Pattern.ofValue (.mapping entries) = .ok p) :
    ∃ source r, Value.lookup "type".toList entries = .text "regexp".toList ∧
      Value.lookup "pattern".toList entries = .text source ∧
      Regexp.compile source = .ok r ∧ p = .regexp r := by
  rw [Pattern.ofValue] at h
  cases htype : Value.lookup "type".toList entries with
  | text kind =>
      simp only [htype] at h
      by_cases hkind : kind = "regexp".toList
      · rw [hkind, if_pos (by decide)] at h
        cases hpattern : Value.lookup "pattern".toList entries with
        | text source =>
            simp only [hpattern] at h
            cases hcompile : Regexp.compile source with
            | ok r =>
                rw [hcompile] at h
                cases h
                exact ⟨source, r, by rw [hkind], rfl, hcompile, rfl⟩
            | error fault =>
                rw [hcompile] at h
                cases h
        | _ =>
            simp only [hpattern] at h
            cases h
      · rw [if_neg (by simpa using hkind)] at h
        cases h
  | _ =>
      simp only [htype, Bool.false_eq_true, if_false] at h
      cases h

theorem Pattern.accepts_iff {v : Value} {p : Pattern} (h : Pattern.ofValue v = .ok p) (t : Text) :
    p.accepts t = true ↔ v.Matches t := by
  cases v with
  | null =>
      cases h
      exact iff_of_true rfl (.null t)
  | text literal =>
      cases h
      rw [accepts, beq_iff_eq]
      constructor
      · rintro rfl
        exact .text t
      · rintro ⟨⟩
        rfl
  | mapping entries =>
      obtain ⟨source, r, htype, hpattern, hcompile, rfl⟩ := Pattern.ofValue_mapping h
      rw [accepts]
      constructor
      · exact .regexp htype hpattern hcompile
      · rintro (_ | _ | @⟨_, source', _, r', -, hpattern', hcompile', hoccurs⟩)
        rw [hpattern, Value.text.injEq] at hpattern'
        rw [← hpattern', hcompile, Except.ok.injEq] at hcompile'
        rw [hcompile']
        exact hoccurs
  | _ => cases h

theorem Field.named?_eq_some {name : Text} {field : Field} (h : Field.named? name = some field) :
    field.name.toList = name := by
  simpa using List.find?_some h

theorem Field.name_injective {f g : Field} (h : f.name.toList = g.name.toList) : f = g := by
  have hf : Field.named? f.name.toList = some f := by
    cases f <;> rfl
  have hg : Field.named? g.name.toList = some g := by
    cases g <;> rfl
  rw [h, hg, Option.some.injEq] at hf
  exact hf.symm

/-- Every text under a name is one of the field with the name. -/
theorem subject_iff {e : Event} {link : Option Text} {name t : Text} :
    Subject e link name t ↔ ∃ field : Field, field.name.toList = name ∧ t ∈ field.subjects e link := by
  constructor
  · intro h
    cases h with
    | calendar => exact ⟨.calendar, rfl, List.mem_singleton.2 rfl⟩
    | title => exact ⟨.title, rfl, List.mem_singleton.2 rfl⟩
    | location h => exact ⟨.location, rfl, Option.mem_toList.2 h⟩
    | notes h => exact ⟨.notes, rfl, Option.mem_toList.2 h⟩
    | url h => exact ⟨.url, rfl, Option.mem_toList.2 h⟩
    | attendee h hmem =>
        refine ⟨.attendee, rfl, ?_⟩
        rw [Field.subjects, h]
        exact hmem
  · rintro ⟨field, rfl, h⟩
    cases field with
    | calendar =>
        rw [List.mem_singleton.1 h]
        exact .calendar
    | title =>
        rw [List.mem_singleton.1 h]
        exact .title
    | location => exact .location (Option.mem_toList.1 h)
    | notes => exact .notes (Option.mem_toList.1 h)
    | url => exact .url (Option.mem_toList.1 h)
    | attendee =>
        rw [Field.subjects] at h
        cases hnames : e.attendees with
        | none =>
            rw [hnames] at h
            cases h
        | some names =>
            rw [hnames] at h
            exact .attendee hnames h

theorem Constraint.ofEntry_eq_ok {entry : Value × Value} {c : Constraint}
    (h : Constraint.ofEntry entry = .ok c) :
    entry.1 = .text c.field.name.toList ∧ Pattern.ofValue entry.2 = .ok c.pattern := by
  obtain ⟨key, value⟩ := entry
  cases key with
  | text name =>
      unfold Constraint.ofEntry at h
      cases hfield : Field.named? name with
      | some field =>
          simp only [hfield] at h
          obtain ⟨pattern, hpattern, rfl⟩ := exists_of_map_eq_ok h
          exact ⟨by rw [Field.named?_eq_some hfield], hpattern⟩
      | none =>
          simp only [hfield] at h
          cases h
  | _ => cases h

theorem Constraint.holds_iff {entry : Value × Value} {c : Constraint}
    (h : Constraint.ofEntry entry = .ok c) (e : Event) (link : Option Text) :
    c.holds e link = true ↔
      ∃ name t, entry.1 = .text name ∧ Subject e link name t ∧ entry.2.Matches t := by
  obtain ⟨hkey, hpattern⟩ := Constraint.ofEntry_eq_ok h
  rw [holds, List.any_eq_true]
  constructor
  · rintro ⟨t, ht, haccepts⟩
    exact ⟨_, t, hkey, subject_iff.2 ⟨c.field, rfl, ht⟩, (Pattern.accepts_iff hpattern t).1 haccepts⟩
  · rintro ⟨name, t, hname, hsubject, hmatches⟩
    obtain ⟨field, hfield, ht⟩ := subject_iff.1 hsubject
    rw [hkey, Value.text.injEq, ← hfield] at hname
    rw [Field.name_injective hname]
    exact ⟨t, ht, (Pattern.accepts_iff hpattern t).2 hmatches⟩

theorem Rule.applies_iff {v : Value} {r : Rule} (h : Rule.ofValue v = .ok r) (e : Event)
    (link : Option Text) : r.applies e link = true ↔ v.RuleHolds e link := by
  cases v with
  | null =>
      cases h
      exact iff_of_true rfl .null
  | mapping entries =>
      obtain ⟨constraints, hentries, rfl⟩ := exists_of_map_eq_ok h
      have hall := all_iff_of_forall₂ (forall₂_of_mapM_eq_ok hentries)
        fun entry c hc => Constraint.holds_iff hc e link
      exact hall.trans ⟨.mapping, fun | .mapping hholds => hholds⟩
  | _ => cases h

theorem Rule.anyApplies_iff {v : Value} {rules : List Rule} (h : Rule.listOfValue v = .ok rules)
    (e : Event) (link : Option Text) : Rule.anyApplies rules e link = true ↔ v.RulesHold e link := by
  cases v with
  | null =>
      cases h
      exact iff_of_true rfl .null
  | list items =>
      have hany := any_iff_of_forall₂ (forall₂_of_mapM_eq_ok h)
        fun item r hr => Rule.applies_iff hr e link
      refine hany.trans ⟨fun ⟨rule, hmem, hholds⟩ => .list hmem hholds, ?_⟩
      rintro (_ | ⟨hmem, hholds⟩)
      exact ⟨_, hmem, hholds⟩
  | _ => cases h

end AgendaLinks
