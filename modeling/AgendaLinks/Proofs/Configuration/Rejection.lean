import AgendaLinks.Proofs.Configuration.Schema
import AgendaLinks.Proofs.Regexp.Faults

/-!
Faults that are no rejections. A document that is no configuration is rejected for the first part of it
that does not have its shape, unless the value that had to be shown cannot be written, or a regular
expression is refused for another reason than a flaw of its text. Which of the two comes first is told
by the order in which the parts are looked at.
-/

namespace AgendaLinks

open ConfigurationFault (placeholder about)

/-- The first item that is not good is a bad one. -/
inductive FirstBad {α : Type} (Good Bad : α → Prop) : List α → Prop where
  | here {x : α} {xs : List α} : Bad x → FirstBad Good Bad (x :: xs)
  | later {x : α} {xs : List α} : Good x → FirstBad Good Bad xs → FirstBad Good Bad (x :: xs)

/-- An answer is a fault, and not a rejection. -/
def Escapes {α : Type} (x : Except ConfigurationFault α) : Prop :=
  ∃ fault, x = .error fault ∧ fault.standing ≠ .rejection

section

variable {α β : Type} {Good Bad : α → Prop} {x : α} {xs : List α}

theorem not_firstBad_nil : ¬FirstBad Good Bad [] := nofun

theorem firstBad_cons :
    FirstBad Good Bad (x :: xs) ↔ Bad x ∨ Good x ∧ FirstBad Good Bad xs := by
  constructor
  · rintro (hx | ⟨hx, hxs⟩)
    · exact Or.inl hx
    · exact Or.inr ⟨hx, hxs⟩
  · rintro (hx | ⟨hx, hxs⟩)
    · exact .here hx
    · exact .later hx hxs

theorem FirstBad.exists_bad (h : FirstBad Good Bad xs) : ∃ x ∈ xs, Bad x := by
  induction h with
  | here hx => exact ⟨_, List.mem_cons_self, hx⟩
  | later hx _ ih =>
      obtain ⟨y, hy, hbad⟩ := ih
      exact ⟨y, List.mem_cons_of_mem _ hy, hbad⟩

theorem not_escapes_ok (a : α) : ¬Escapes (.ok a) := by
  rintro ⟨fault, h, -⟩
  cases h

theorem escapes_error_iff {fault : ConfigurationFault} :
    Escapes (.error fault : Except ConfigurationFault α) ↔ fault.standing ≠ .rejection := by
  constructor
  · rintro ⟨fault', h, hstanding⟩
    cases h
    exact hstanding
  · exact fun h => ⟨fault, rfl, h⟩

/-- What is done next is asked only of what was made before. -/
theorem escapes_bind_iff {x : Except ConfigurationFault α} {f : α → Except ConfigurationFault β} :
    Escapes (x >>= f) ↔ Escapes x ∨ ∃ a, x = .ok a ∧ Escapes (f a) := by
  cases x with
  | error fault =>
      constructor
      · rintro ⟨fault', h, hstanding⟩
        cases h
        exact Or.inl ⟨fault, rfl, hstanding⟩
      · rintro (⟨fault', h, hstanding⟩ | ⟨a, h, -⟩)
        · cases h
          exact ⟨fault, rfl, hstanding⟩
        · cases h
  | ok a =>
      constructor
      · exact fun h => Or.inr ⟨a, rfl, h⟩
      · rintro (h | ⟨a', h, hf⟩)
        · exact absurd h (not_escapes_ok a)
        · cases h
          exact hf

theorem escapes_map_iff {x : Except ConfigurationFault α} {f : α → β} :
    Escapes (x.map f) ↔ Escapes x := by
  cases x with
  | error fault => rw [Except.map, escapes_error_iff, escapes_error_iff]
  | ok a => exact iff_of_false (not_escapes_ok _) (not_escapes_ok _)

/-- What is done next in the same way for whatever was made before. -/
theorem escapes_then_iff {x : Except ConfigurationFault α} {f : α → Except ConfigurationFault β}
    {Q : Prop} (hf : ∀ a, Escapes (f a) ↔ Q) :
    Escapes (x >>= f) ↔ Escapes x ∨ (∃ a, x = .ok a) ∧ Q := by
  rw [escapes_bind_iff]
  simp only [hf, exists_and_right]

theorem escapes_mapM_iff {f : α → Except ConfigurationFault β}
    (hgood : ∀ x, (∃ y, f x = .ok y) ↔ Good x) (hbad : ∀ x, Escapes (f x) ↔ Bad x) :
    Escapes (xs.mapM f) ↔ FirstBad Good Bad xs := by
  induction xs with
  | nil => exact iff_of_false (not_escapes_ok _) not_firstBad_nil
  | cons x xs ih =>
      have hdone (y : β) : Escapes (xs.mapM f >>= fun ys => pure (y :: ys)) ↔ FirstBad Good Bad xs := by
        have hlast (ys : List β) : Escapes (pure (y :: ys)) ↔ False :=
          iff_of_false (not_escapes_ok _) not_false
        rw [escapes_then_iff hlast, and_false, or_false, ih]
      rw [List.mapM_cons, escapes_then_iff hdone, firstBad_cons, hgood, hbad]

end

/-- A fault about a value is a rejection exactly if the value can be written. -/
theorem escapes_about_iff {α : Type} {fault : Value → ConfigurationFault}
    (hfault : ∀ v, (fault v).standing = .rejection) {v : Value} :
    Escapes (.error (about fault v) : Except ConfigurationFault α) ↔ v.writable = false := by
  rw [escapes_error_iff, about]
  cases hwritable : v.writable with
  | true =>
      rw [if_pos rfl, hfault]
      simp
  | false =>
      rw [if_neg Bool.false_ne_true]
      simp [ConfigurationFault.standing]

namespace Value

/-- In the place of a list: an item escapes before one is rejected, or another value has to be shown
that cannot be written. -/
inductive ListEscapes (Good Bad : Value → Prop) : Value → Prop where
  | items {items : List Value} : FirstBad Good Bad items → ListEscapes Good Bad (.list items)
  | shown {v : Value} : (∀ items, v ≠ .list items) → v.writable = false → ListEscapes Good Bad v

/-- In the place of a mapping: an entry escapes before one is rejected, or another value has to be
shown that cannot be written. -/
inductive MappingEscapes (Good Bad : Value × Value → Prop) : Value → Prop where
  | entries {entries : List (Value × Value)} :
      FirstBad Good Bad entries → MappingEscapes Good Bad (.mapping entries)
  | shown {v : Value} : (∀ entries, v ≠ .mapping entries) → v.writable = false →
      MappingEscapes Good Bad v

inductive PatternEscapes : Value → Prop where
  | regexp {entries : List (Value × Value)} {source : Text} {fault : Regexp.Fault} :
      lookup "type".toList entries = .text "regexp".toList →
      lookup "pattern".toList entries = .text source →
      Regexp.compile source = .error fault → ¬fault.IsFlaw → PatternEscapes (.mapping entries)
  | source {entries : List (Value × Value)} :
      lookup "type".toList entries = .text "regexp".toList →
      (lookup "pattern".toList entries).writable = false → PatternEscapes (.mapping entries)
  | kind {entries : List (Value × Value)} :
      (lookup "type".toList entries).writable = false → PatternEscapes (.mapping entries)
  | shown {v : Value} : (∀ entries, v ≠ .mapping entries) → v.writable = false → PatternEscapes v

/-- An entry of a rule escapes for its pattern if it has a known key, and else for the key. -/
def RuleEscapes : Value → Prop :=
  MappingEscapes (fun entry => (∃ key ∈ ruleKeys, entry.1 = .text key.toList) ∧ entry.2.IsPattern)
    fun entry => ((∃ key ∈ ruleKeys, entry.1 = .text key.toList) ∧ entry.2.PatternEscapes) ∨
      entry.1.writable = false

def RulesEscape : Value → Prop := ListEscapes IsRule RuleEscapes

/-- An entry with the name of an account, which has to be written, and its rules. -/
def AccountFits (entry : Value × Value) : Prop := entry.1.writable = true ∧ entry.2.IsRules

def AccountEscapes (entry : Value × Value) : Prop :=
  entry.1.writable = false ∨ entry.2.RulesEscape

inductive OpenerEscapes : Value → Prop where
  | shown {v : Value} : (∀ entries, v ≠ .mapping entries) → v.writable = false → OpenerEscapes v
  | command {v : Value} : (v.get "with").writable = false → OpenerEscapes v
  | condition {v : Value} {template : Text} : v.get "with" = .text template →
      (∃! left, ∃ right, template = left ++ placeholder ++ right) →
      (v.get "if").isEmpty = false → (v.get "if").RulesEscape → OpenerEscapes v

/-- A document has the shape of a part of a configuration. -/
def Fits (document : Value) : Part → Prop
  | .whole => document.MappingOf fun _ => True
  | .calendars => (document.get "calendars").ListOf IsPattern
  | .urls => (document.get "urls").MappingOf fun _ => True
  | .ignore => ((document.get "urls").get "ignore").ListOf IsRule
  | .accounts => ((document.get "urls").get "account").MappingOf fun _ => True
  | .accountsOf service =>
    (((document.get "urls").get "account").get service).MappingOf AccountFits
  | .openers => ((document.get "urls").get "open").ListOf IsOpener
  | .opener => True

/-- A part of a document is neither accepted nor rejected. -/
def EscapesAt (document : Value) : Part → Prop
  | .whole => document.MappingEscapes (fun _ => True) fun _ => False
  | .calendars => (document.get "calendars").ListEscapes IsPattern PatternEscapes
  | .urls => (document.get "urls").MappingEscapes (fun _ => True) fun _ => False
  | .ignore => ((document.get "urls").get "ignore").ListEscapes IsRule RuleEscapes
  | .accounts => ((document.get "urls").get "account").MappingEscapes (fun _ => True) fun _ => False
  | .accountsOf service =>
    (((document.get "urls").get "account").get service).MappingEscapes AccountFits AccountEscapes
  | .openers => ((document.get "urls").get "open").ListEscapes IsOpener OpenerEscapes
  | .opener => False

end Value

/-- The parts of a configuration in the order in which they are looked at. -/
def Part.inOrder : List Part :=
  [.whole, .urls, .accounts, .calendars, .ignore, .accountsOf "google", .accountsOf "zoom", .openers]

theorem escapes_itemsOf_iff {part : Part} {v : Value} :
    Escapes (itemsOf part v) ↔ (∀ items, v ≠ .list items) ∧ v.writable = false := by
  cases v with
  | null => exact iff_of_false (not_escapes_ok _) fun h => Bool.noConfusion h.2
  | list items => exact iff_of_false (not_escapes_ok _) fun h => h.1 items rfl
  | _ => exact (escapes_about_iff fun _ => rfl).trans (and_iff_right nofun).symm

theorem escapes_entriesOf_iff {part : Part} {v : Value} :
    Escapes (entriesOf part v) ↔ (∀ entries, v ≠ .mapping entries) ∧ v.writable = false := by
  cases v with
  | null => exact iff_of_false (not_escapes_ok _) fun h => Bool.noConfusion h.2
  | mapping entries => exact iff_of_false (not_escapes_ok _) fun h => h.1 entries rfl
  | _ => exact (escapes_about_iff fun _ => rfl).trans (and_iff_right nofun).symm

section

variable {α β : Type} {v : Value} {part : Part}

/-- A part that holds other parts is rejected or escapes only as a whole. -/
theorem escapes_entriesOf_bind_iff {k : List (Value × Value) → Except ConfigurationFault β} {Q : Prop}
    (hk : Escapes (k v.entries) ↔ Q) : Escapes (entriesOf part v >>= k) ↔
      (v.MappingEscapes (fun _ => True) fun _ => False) ∨ (v.MappingOf fun _ => True) ∧ Q := by
  have hshown : (v.MappingEscapes (fun _ => True) fun _ => False) ↔
      (∀ entries, v ≠ .mapping entries) ∧ v.writable = false := by
    constructor
    · rintro (hentries | ⟨hother, hwritable⟩)
      · obtain ⟨entry, -, hbad⟩ := hentries.exists_bad
        exact hbad.elim
      · exact ⟨hother, hwritable⟩
    · exact fun h => .shown h.1 h.2
  rw [escapes_bind_iff, escapes_entriesOf_iff, hshown]
  simp only [entriesOf_eq_ok_iff, and_assoc, exists_and_left, exists_eq_left', hk]

theorem escapes_items_iff {f : Value → Except ConfigurationFault α} {Good Bad : Value → Prop}
    (hgood : ∀ x, (∃ y, f x = .ok y) ↔ Good x) (hbad : ∀ x, Escapes (f x) ↔ Bad x) :
    Escapes (itemsOf part v >>= fun items => items.mapM f) ↔ v.ListEscapes Good Bad := by
  rw [escapes_bind_iff, escapes_itemsOf_iff]
  simp only [itemsOf_eq_ok_iff, escapes_mapM_iff hgood hbad]
  constructor
  · rintro (⟨hother, hwritable⟩ | ⟨items, ⟨_ | _, rfl⟩, hitems⟩)
    · exact .shown hother hwritable
    · exact absurd hitems not_firstBad_nil
    · exact .items hitems
  · rintro (hitems | ⟨hother, hwritable⟩)
    · exact Or.inr ⟨_, ⟨.list fun _ _ => trivial, rfl⟩, hitems⟩
    · exact Or.inl ⟨hother, hwritable⟩

theorem exists_items_iff {f : Value → Except ConfigurationFault α} {Good : Value → Prop}
    (hgood : ∀ x, (∃ y, f x = .ok y) ↔ Good x) :
    (∃ ys, (itemsOf part v >>= fun items => items.mapM f) = .ok ys) ↔ v.ListOf Good := by
  rw [exists_bind_eq_ok_iff, Value.listOf_iff]
  simp only [itemsOf_eq_ok_iff, exists_mapM_eq_ok_iff, hgood, and_assoc, exists_and_left,
    exists_eq_left']

theorem escapes_entries_iff {f : Value × Value → Except ConfigurationFault α}
    {Good Bad : Value × Value → Prop} (hgood : ∀ x, (∃ y, f x = .ok y) ↔ Good x)
    (hbad : ∀ x, Escapes (f x) ↔ Bad x) :
    Escapes (entriesOf part v >>= fun entries => entries.mapM f) ↔ v.MappingEscapes Good Bad := by
  rw [escapes_bind_iff, escapes_entriesOf_iff]
  simp only [entriesOf_eq_ok_iff, escapes_mapM_iff hgood hbad]
  constructor
  · rintro (⟨hother, hwritable⟩ | ⟨items, ⟨_ | _, rfl⟩, hentries⟩)
    · exact .shown hother hwritable
    · exact absurd hentries not_firstBad_nil
    · exact .entries hentries
  · rintro (hentries | ⟨hother, hwritable⟩)
    · exact Or.inr ⟨_, ⟨.mapping fun _ _ => trivial, rfl⟩, hentries⟩
    · exact Or.inl ⟨hother, hwritable⟩

theorem exists_entries_iff {f : Value × Value → Except ConfigurationFault α}
    {Good : Value × Value → Prop} (hgood : ∀ x, (∃ y, f x = .ok y) ↔ Good x) :
    (∃ ys, (entriesOf part v >>= fun entries => entries.mapM f) = .ok ys) ↔ v.MappingOf Good := by
  rw [exists_bind_eq_ok_iff, Value.mappingOf_iff]
  simp only [entriesOf_eq_ok_iff, exists_mapM_eq_ok_iff, hgood, and_assoc, exists_and_left,
    exists_eq_left']

end

theorem Pattern.ofValue_of_source {entries : List (Value × Value)} {source : Text}
    (htype : Value.lookup "type".toList entries = .text "regexp".toList)
    (hpattern : Value.lookup "pattern".toList entries = .text source) :
    Pattern.ofValue (.mapping entries) =
      ((Regexp.compile source).map Pattern.regexp).mapError (.badRegexp source) := by
  rw [Pattern.ofValue, htype, hpattern]
  simp only [beq_self_eq_true, if_true]
  cases Regexp.compile source <;> rfl

theorem Pattern.ofValue_of_no_source {entries : List (Value × Value)}
    (htype : Value.lookup "type".toList entries = .text "regexp".toList)
    (hpattern : ∀ source, Value.lookup "pattern".toList entries ≠ .text source) :
    Pattern.ofValue (.mapping entries) =
      .error (about .patternSource (Value.lookup "pattern".toList entries)) := by
  rw [Pattern.ofValue, htype]
  simp only [beq_self_eq_true, if_true]

theorem Pattern.ofValue_of_other_kind {entries : List (Value × Value)}
    (htype : Value.lookup "type".toList entries ≠ .text "regexp".toList) :
    Pattern.ofValue (.mapping entries) =
      .error (about .patternKind (Value.lookup "type".toList entries)) := by
  rw [Pattern.ofValue]
  cases hkind : Value.lookup "type".toList entries with
  | text kind =>
      have hne : ¬(kind == "regexp".toList) = true := by
        rw [beq_iff_eq]
        rintro rfl
        exact htype hkind
      exact if_neg hne
  | _ => rfl

theorem escapes_compiled_iff {α : Type} {f : Regexp → α} {source : Text} :
    Escapes (((Regexp.compile source).map f).mapError (.badRegexp source)) ↔
      ∃ fault, Regexp.compile source = .error fault ∧ ¬fault.IsFlaw := by
  cases Regexp.compile source with
  | ok r => exact iff_of_false (not_escapes_ok _) nofun
  | error fault =>
      have hfault : (ConfigurationFault.badRegexp source fault).standing ≠ .rejection ↔
          ¬fault.IsFlaw := by
        cases fault with
        | flawed flaw place => exact iff_of_false (not_not_intro rfl) (not_not_intro trivial)
        | _ => exact iff_of_true nofun not_false
      rw [Except.map, Except.mapError, escapes_error_iff, hfault]
      simp

theorem Pattern.escapes_ofValue_iff {v : Value} : Escapes (Pattern.ofValue v) ↔ v.PatternEscapes := by
  cases v with
  | null =>
      refine iff_of_false (not_escapes_ok _) ?_
      rintro (_ | _ | _ | ⟨-, ⟨⟩⟩)
  | text t =>
      refine iff_of_false (not_escapes_ok _) ?_
      rintro (_ | _ | _ | ⟨-, ⟨⟩⟩)
  | mapping entries =>
      by_cases htype : Value.lookup "type".toList entries = .text "regexp".toList
      · have hkind : (Value.lookup "type".toList entries).writable = true := by
          rw [htype]
          rfl
        by_cases hpattern : ∃ source, Value.lookup "pattern".toList entries = .text source
        · obtain ⟨source, hpattern⟩ := hpattern
          rw [Pattern.ofValue_of_source htype hpattern, escapes_compiled_iff]
          constructor
          · rintro ⟨fault, hcompile, hfault⟩
            exact .regexp htype hpattern hcompile hfault
          · intro h
            cases h with
            | @regexp _ source' fault _ hpattern' hcompile hfault =>
                rw [hpattern, Value.text.injEq] at hpattern'
                subst hpattern'
                exact ⟨fault, hcompile, hfault⟩
            | source _ hwritable =>
                rw [hpattern] at hwritable
                cases hwritable
            | kind hwritable =>
                rw [hkind] at hwritable
                cases hwritable
            | shown hother => exact absurd rfl (hother entries)
        · rw [not_exists] at hpattern
          rw [Pattern.ofValue_of_no_source htype hpattern, escapes_about_iff fun _ => rfl]
          constructor
          · exact .source htype
          · intro h
            cases h with
            | regexp _ hpattern' => exact absurd hpattern' (hpattern _)
            | source _ hwritable => exact hwritable
            | kind hwritable =>
                rw [hkind] at hwritable
                cases hwritable
            | shown hother => exact absurd rfl (hother entries)
      · rw [Pattern.ofValue_of_other_kind htype, escapes_about_iff fun _ => rfl]
        constructor
        · exact .kind
        · intro h
          cases h with
          | regexp htype' => exact absurd htype' htype
          | source htype' => exact absurd htype' htype
          | kind hwritable => exact hwritable
          | shown hother => exact absurd rfl (hother entries)
  | _ =>
      refine (escapes_about_iff fun _ => rfl).trans ?_
      constructor
      · exact .shown (by rintro _ ⟨⟩)
      · intro h
        cases h with
        | shown hother hwritable => exact hwritable

theorem Constraint.ofEntry_of_other_key {key value : Value}
    (hkey : ¬∃ name ∈ Value.ruleKeys, key = .text name.toList) :
    Constraint.ofEntry (key, value) = .error (about .ruleField key) := by
  cases key with
  | text name =>
      have hfield : Field.named? name = none := by
        rw [Option.eq_none_iff_forall_ne_some]
        intro field hfield
        obtain ⟨known, hknown, rfl⟩ := Field.exists_named?_iff.1 ⟨field, hfield⟩
        exact hkey ⟨known, hknown, rfl⟩
      simp only [Constraint.ofEntry, hfield]
  | _ => rfl

theorem Constraint.escapes_ofEntry_iff {entry : Value × Value} :
    Escapes (Constraint.ofEntry entry) ↔
      ((∃ key ∈ Value.ruleKeys, entry.1 = .text key.toList) ∧ entry.2.PatternEscapes) ∨
        entry.1.writable = false := by
  obtain ⟨key, value⟩ := entry
  by_cases hkey : ∃ name ∈ Value.ruleKeys, key = .text name.toList
  · obtain ⟨name, hname, rfl⟩ := hkey
    obtain ⟨field, hfield⟩ := Field.exists_named?_iff.2 ⟨name, hname, rfl⟩
    rw [Constraint.ofEntry]
    simp only [hfield]
    rw [escapes_map_iff, Pattern.escapes_ofValue_iff]
    constructor
    · exact fun h => Or.inl ⟨⟨name, hname, rfl⟩, h⟩
    · rintro (⟨-, h⟩ | hwritable)
      · exact h
      · cases hwritable
  · rw [Constraint.ofEntry_of_other_key hkey, escapes_about_iff fun _ => rfl,
      or_iff_right fun h => hkey h.1]

theorem Rule.escapes_ofValue_iff {v : Value} : Escapes (Rule.ofValue v) ↔ v.RuleEscapes := by
  cases v with
  | null =>
      refine iff_of_false (not_escapes_ok _) ?_
      rintro (_ | ⟨-, ⟨⟩⟩)
  | mapping entries =>
      rw [Rule.ofValue, escapes_map_iff, escapes_mapM_iff
        (fun _ => Constraint.exists_ofEntry_iff) fun _ => Constraint.escapes_ofEntry_iff]
      constructor
      · exact .entries
      · rintro (hentries | ⟨hother, -⟩)
        · exact hentries
        · exact absurd rfl (hother entries)
  | _ =>
      refine (escapes_about_iff fun _ => rfl).trans ?_
      constructor
      · exact .shown (by rintro _ ⟨⟩)
      · rintro (_ | ⟨-, hwritable⟩)
        exact hwritable

theorem Rule.escapes_listOfValue_iff {v : Value} : Escapes (Rule.listOfValue v) ↔ v.RulesEscape := by
  cases v with
  | null =>
      refine iff_of_false (not_escapes_ok _) ?_
      rintro (_ | ⟨-, ⟨⟩⟩)
  | list items =>
      rw [Rule.listOfValue,
        escapes_mapM_iff (fun _ => Rule.exists_ofValue_iff) fun _ => Rule.escapes_ofValue_iff]
      constructor
      · exact .items
      · rintro (hitems | ⟨hother, -⟩)
        · exact hitems
        · exact absurd rfl (hother items)
  | _ =>
      refine (escapes_about_iff fun _ => rfl).trans ?_
      constructor
      · exact .shown (by rintro _ ⟨⟩)
      · rintro (_ | ⟨-, hwritable⟩)
        exact hwritable

theorem Choice.exists_ofAccount_iff_accountFits {entry : Value × Value} :
    (∃ c, Choice.ofAccount entry = .ok c) ↔ Value.AccountFits entry := by
  by_cases hname : entry.1.writable = true
  · rw [Choice.exists_ofAccount_iff hname]
    exact (and_iff_right hname).symm
  · refine iff_of_false ?_ fun h => hname h.1
    rintro ⟨c, hc⟩
    rw [Choice.ofAccount, if_neg hname] at hc
    cases hc

theorem Choice.escapes_ofAccount_iff {entry : Value × Value} :
    Escapes (Choice.ofAccount entry) ↔ Value.AccountEscapes entry := by
  by_cases hname : entry.1.writable = true
  · rw [Choice.ofAccount, if_pos hname, escapes_map_iff, Rule.escapes_listOfValue_iff,
      Value.AccountEscapes, hname]
    simp
  · rw [Choice.ofAccount, if_neg hname, escapes_error_iff]
    exact iff_of_true (by rintro ⟨⟩) (Or.inl (Bool.not_eq_true _ ▸ hname))

theorem not_rulesEscape_null : ¬Value.RulesEscape .null := by
  rintro (_ | ⟨-, ⟨⟩⟩)

theorem Choice.escapes_ofOpener_iff {v : Value} :
    Escapes (Choice.ofOpener v) ↔ v.OpenerEscapes := by
  cases v with
  | mapping entries =>
      by_cases hwith : ∃ template, Value.lookup "with".toList entries = .text template
      · obtain ⟨template, hwith⟩ := hwith
        have hwritable : ((Value.mapping entries).get "with").writable = true := by
          show (Value.lookup "with".toList entries).writable = true
          rw [hwith]
          rfl
        by_cases hcount : Text.countOf placeholder template = 1
        · simp only [Choice.ofOpener, entriesOf, bind, Except.bind, hwith, if_pos hcount]
          rw [escapes_map_iff, Rule.escapes_listOfValue_iff]
          constructor
          · intro h
            split_ifs at h with hempty
            · exact absurd h not_rulesEscape_null
            · exact .condition hwith (countOf_placeholder_eq_one_iff.1 hcount)
                (Bool.not_eq_true _ ▸ hempty) h
          · intro h
            cases h with
            | shown hother => exact absurd rfl (hother entries)
            | command hunwritable =>
                rw [hwritable] at hunwritable
                cases hunwritable
            | condition _ _ hempty hrules =>
                change (Value.lookup "if".toList entries).isEmpty = false at hempty
                rw [if_neg (Bool.not_eq_true _ ▸ hempty)]
                exact hrules
        · simp only [Choice.ofOpener, entriesOf, bind, Except.bind, hwith, if_neg hcount]
          rw [escapes_error_iff]
          refine iff_of_false (not_not_intro rfl) fun h => ?_
          cases h with
          | shown hother => exact absurd rfl (hother entries)
          | command hunwritable =>
              rw [hwritable] at hunwritable
              cases hunwritable
          | condition hwith' honce =>
              cases hwith.symm.trans hwith'
              exact hcount (countOf_placeholder_eq_one_iff.2 honce)
      · have hshown : Choice.ofOpener (.mapping entries) =
            .error (about .noTemplate (Value.lookup "with".toList entries)) := by
          simp only [Choice.ofOpener, entriesOf, bind, Except.bind]
          cases htemplate : Value.lookup "with".toList entries with
          | text template => exact absurd ⟨template, htemplate⟩ hwith
          | _ => rfl
        rw [hshown, escapes_about_iff fun _ => rfl]
        constructor
        · intro h
          apply Value.OpenerEscapes.command
          exact h
        · intro h
          cases h with
          | shown hother => exact absurd rfl (hother entries)
          | command hunwritable => exact hunwritable
          | condition hwith' => exact absurd ⟨_, hwith'⟩ hwith
  | null =>
      refine iff_of_false ?_ ?_
      · show ¬Escapes (.error (about .noTemplate .null))
        rw [escapes_about_iff fun _ => rfl]
        rintro ⟨⟩
      · rintro (⟨-, ⟨⟩⟩ | ⟨⟨⟩⟩ | ⟨⟨⟩⟩)
  | _ =>
      refine (escapes_about_iff fun _ => rfl).trans ?_
      constructor
      · exact .shown (by rintro _ ⟨⟩)
      · rintro (⟨-, hunwritable⟩ | ⟨⟨⟩⟩ | ⟨⟨⟩⟩)
        exact hunwritable

theorem escapes_accounts_iff (kind : AccountKind) {β : Type} {accounts : List (Value × Value)}
    {k : List Choice → Except ConfigurationFault β} {Q : Prop} (hk : ∀ choices, Escapes (k choices) ↔ Q) :
    Escapes (accountsOf kind accounts >>= k) ↔
      (Value.lookup kind.name.toList accounts).MappingEscapes Value.AccountFits Value.AccountEscapes ∨
        (Value.lookup kind.name.toList accounts).MappingOf Value.AccountFits ∧ Q := by
  rw [escapes_then_iff hk, accountsOf,
    escapes_entries_iff (fun _ => Choice.exists_ofAccount_iff_accountFits)
      fun _ => Choice.escapes_ofAccount_iff,
    exists_entries_iff fun _ => Choice.exists_ofAccount_iff_accountFits]

theorem escapes_section_iff {α β : Type} {part : Part} {v : Value}
    {f : Value → Except ConfigurationFault α} {Good Bad : Value → Prop}
    (hgood : ∀ x, (∃ y, f x = .ok y) ↔ Good x) (hbad : ∀ x, Escapes (f x) ↔ Bad x)
    {k : List α → Except ConfigurationFault β} {Q : Prop} (hk : ∀ ys, Escapes (k ys) ↔ Q) :
    Escapes (itemsOf part v >>= fun items => items.mapM f >>= k) ↔
      v.ListEscapes Good Bad ∨ v.ListOf Good ∧ Q := by
  rw [← bind_assoc, escapes_then_iff hk, escapes_items_iff hgood hbad, exists_items_iff hgood]

/-- A document is neither accepted nor rejected exactly if a part of it escapes and those looked at before
have their shape. -/
theorem Configuration.escapes_ofValue_iff (document : Value) :
    Escapes (Configuration.ofValue document) ↔
      FirstBad document.Fits document.EscapesAt Part.inOrder := by
  unfold Configuration.ofValue Part.inOrder
  rw [firstBad_cons]
  apply escapes_entriesOf_bind_iff
  rw [firstBad_cons]
  apply escapes_entriesOf_bind_iff
  rw [firstBad_cons]
  apply escapes_entriesOf_bind_iff
  rw [firstBad_cons]
  apply escapes_section_iff (fun _ => Pattern.exists_ofValue_iff) fun _ => Pattern.escapes_ofValue_iff
  intro calendars
  rw [firstBad_cons]
  apply escapes_section_iff (fun _ => Rule.exists_ofValue_iff) fun _ => Rule.escapes_ofValue_iff
  intro ignore
  rw [firstBad_cons]
  apply escapes_accounts_iff .google
  intro google
  rw [firstBad_cons]
  apply escapes_accounts_iff .zoom
  intro zoom
  rw [firstBad_cons]
  apply escapes_section_iff (fun _ => Choice.exists_ofOpener_iff) fun _ => Choice.escapes_ofOpener_iff
  intro openers
  exact iff_of_false (not_escapes_ok _) not_firstBad_nil

end AgendaLinks
