import AgendaLinks.Proofs.Configuration.Rejection

/-!
What stands in a document that is neither accepted nor rejected. Wherever the reader gives up in it, there
is a whole number that is too long to be written, or a regular expression that writes a number of
repetitions that is too large, or one that asks for two kinds of characters at once.
-/

namespace AgendaLinks

namespace Value

/-- The values right inside of a value. -/
def inner : Value → List Value
  | list items | set items => items
  | pair a b => [a, b]
  | mapping entries => entries.flatMap fun entry => [entry.1, entry.2]
  | _ => []

/-- A value stands somewhere in another one. -/
inductive Holds (w : Value) : Value → Prop where
  | self : Holds w w
  | inside {v x : Value} : x ∈ v.inner → Holds w x → Holds w v

/-- A mapping with the source of a regular expression. -/
def IsRegexp (source : Text) : Value → Prop
  | mapping entries =>
    lookup "type".toList entries = .text "regexp".toList ∧ lookup "pattern".toList entries = .text source
  | _ => False

/-- A whole number that cannot be written stands in a value, or a regular expression that is not modest. -/
def Troubled (v : Value) : Prop :=
  (∃ i, Holds (.int i) v ∧ 10 ^ 4300 ≤ i.natAbs) ∨
    ∃ source x, Holds x v ∧ x.IsRegexp source ∧ ¬Regexp.Modest source

theorem Troubled.inside {v x : Value} (hx : x ∈ v.inner) (h : x.Troubled) : v.Troubled := by
  rcases h with ⟨i, hi, hlong⟩ | ⟨source, w, hw, hsource⟩
  · exact Or.inl ⟨i, .inside hx hi, hlong⟩
  · exact Or.inr ⟨source, w, .inside hx hw, hsource⟩

theorem not_troubled_null : ¬Troubled .null := by
  rintro (⟨i, _ | ⟨⟨⟩, -⟩, -⟩ | ⟨source, w, _ | ⟨⟨⟩, -⟩, ⟨⟩, -⟩)

theorem mem_inner_item {items : List Value} {x : Value} (hx : x ∈ items) : x ∈ (list items).inner := hx

theorem mem_inner_key {entries : List (Value × Value)} {entry : Value × Value} (h : entry ∈ entries) :
    entry.1 ∈ (mapping entries).inner :=
  List.mem_flatMap.2 ⟨entry, h, List.mem_cons_self⟩

theorem mem_inner_value {entries : List (Value × Value)} {entry : Value × Value} (h : entry ∈ entries) :
    entry.2 ∈ (mapping entries).inner :=
  List.mem_flatMap.2 ⟨entry, h, List.mem_cons_of_mem _ List.mem_cons_self⟩

theorem Troubled.of_get {v : Value} {key : String} (h : (v.get key).Troubled) : v.Troubled := by
  cases v with
  | mapping entries =>
      change (lookup key.toList entries).Troubled at h
      rw [lookup, lookup?_eq_find?] at h
      cases hfind : entries.find? (hasKey key) with
      | none =>
          rw [hfind] at h
          exact absurd h not_troubled_null
      | some entry =>
          rw [hfind] at h
          exact h.inside (mem_inner_value (List.mem_of_find?_eq_some hfind))
  | _ => exact absurd h not_troubled_null

theorem sizeOf_lt_of_mem_inner {v x : Value} (h : x ∈ v.inner) : sizeOf x < sizeOf v := by
  cases v with
  | list items | set items =>
      have hlt : sizeOf x < sizeOf items := List.sizeOf_lt_of_mem h
      simp only [list.sizeOf_spec, set.sizeOf_spec]
      omega
  | pair a b =>
      simp only [inner, List.mem_cons, List.not_mem_nil, or_false] at h
      rcases h with rfl | rfl <;> simp only [pair.sizeOf_spec] <;> omega
  | mapping entries =>
      obtain ⟨entry, hentry, hx⟩ := List.mem_flatMap.1 h
      have hlt : sizeOf entry < sizeOf entries := List.sizeOf_lt_of_mem hentry
      have hentry : sizeOf entry = 1 + sizeOf entry.1 + sizeOf entry.2 := rfl
      simp only [List.mem_cons, List.not_mem_nil, or_false] at hx
      rcases hx with rfl | rfl <;> simp only [mapping.sizeOf_spec] <;> omega
  | _ => cases h

theorem exists_of_writableItems {items : List Value} (h : writableItems items = false) :
    ∃ x ∈ items, x.writable = false := by
  induction items with
  | nil => cases h
  | cons x xs ih =>
      rw [writableItems, Bool.and_eq_false_iff] at h
      rcases h with hx | hxs
      · exact ⟨x, List.mem_cons_self, hx⟩
      · obtain ⟨y, hy, hwritable⟩ := ih hxs
        exact ⟨y, List.mem_cons_of_mem x hy, hwritable⟩

theorem exists_of_writableEntries {entries : List (Value × Value)}
    (h : writableEntries entries = false) :
    ∃ entry ∈ entries, entry.1.writable = false ∨ entry.2.writable = false := by
  induction entries with
  | nil => cases h
  | cons entry rest ih =>
      rw [writableEntries, Bool.and_eq_false_iff, Bool.and_eq_false_iff] at h
      rcases h with hentry | hrest
      · exact ⟨entry, List.mem_cons_self, hentry⟩
      · obtain ⟨other, hother, hwritable⟩ := ih hrest
        exact ⟨other, List.mem_cons_of_mem entry hother, hwritable⟩

/-- A value that cannot be written is a number, or one right inside of it cannot be written. -/
theorem exists_of_not_writable {v : Value} (h : v.writable = false) :
    (∃ i, v = .int i) ∨ ∃ x ∈ v.inner, x.writable = false := by
  cases v with
  | int i => exact Or.inl ⟨i, rfl⟩
  | list items | set items =>
      rw [writable] at h
      exact Or.inr (exists_of_writableItems h)
  | pair a b =>
      rw [writable, Bool.and_eq_false_iff] at h
      rcases h with ha | hb
      · exact Or.inr ⟨a, List.mem_cons_self, ha⟩
      · exact Or.inr ⟨b, List.mem_cons_of_mem a List.mem_cons_self, hb⟩
  | mapping entries =>
      rw [writable] at h
      obtain ⟨entry, hentry, hkey | hvalue⟩ := exists_of_writableEntries h
      · exact Or.inr ⟨entry.1, mem_inner_key hentry, hkey⟩
      · exact Or.inr ⟨entry.2, mem_inner_value hentry, hvalue⟩
  | _ => cases h

theorem troubled_int {i : Int} (h : (Value.int i).writable = false) : Troubled (.int i) := by
  rw [writable] at h
  exact Or.inl ⟨i, .self, not_lt.1 (of_decide_eq_false h)⟩

theorem troubled_of_not_writable {v : Value} (h : v.writable = false) : v.Troubled := by
  induction hsize : sizeOf v using Nat.strong_induction_on generalizing v with
  | _ n ih =>
      subst hsize
      obtain ⟨i, rfl⟩ | ⟨x, hx, hwritable⟩ := exists_of_not_writable h
      · exact troubled_int h
      · exact (ih (sizeOf x) (sizeOf_lt_of_mem_inner hx) hwritable rfl).inside hx

theorem ListEscapes.troubled {Good Bad : Value → Prop} {v : Value}
    (hbad : ∀ x, Bad x → x.Troubled) (h : v.ListEscapes Good Bad) : v.Troubled := by
  cases h with
  | items hitems =>
      obtain ⟨x, hx, hxbad⟩ := hitems.exists_bad
      exact (hbad x hxbad).inside (mem_inner_item hx)
  | shown _ hwritable => exact troubled_of_not_writable hwritable

theorem MappingEscapes.troubled {Good Bad : Value × Value → Prop} {v : Value}
    (hbad : ∀ entry, Bad entry → entry.1.Troubled ∨ entry.2.Troubled)
    (h : v.MappingEscapes Good Bad) : v.Troubled := by
  cases h with
  | entries hentries =>
      obtain ⟨entry, hentry, hentrybad⟩ := hentries.exists_bad
      rcases hbad entry hentrybad with hkey | hvalue
      · exact hkey.inside (mem_inner_key hentry)
      · exact hvalue.inside (mem_inner_value hentry)
  | shown _ hwritable => exact troubled_of_not_writable hwritable

theorem PatternEscapes.troubled {v : Value} (h : v.PatternEscapes) : v.Troubled := by
  cases h with
  | regexp htype hpattern hcompile hfault =>
      refine Or.inr ⟨_, _, .self, ⟨htype, hpattern⟩, fun hmodest => hfault ?_⟩
      exact Regexp.isFlaw_of_compile hmodest hcompile
  | @source entries htype hwritable =>
      have hsource : ((mapping entries).get "pattern").Troubled := troubled_of_not_writable hwritable
      exact hsource.of_get
  | @kind entries hwritable =>
      have hkind : ((mapping entries).get "type").Troubled := troubled_of_not_writable hwritable
      exact hkind.of_get
  | shown _ hwritable => exact troubled_of_not_writable hwritable

theorem RuleEscapes.troubled {v : Value} (h : v.RuleEscapes) : v.Troubled := by
  apply MappingEscapes.troubled _ h
  rintro entry (⟨-, hpattern⟩ | hwritable)
  · exact Or.inr hpattern.troubled
  · exact Or.inl (troubled_of_not_writable hwritable)

theorem RulesEscape.troubled {v : Value} (h : v.RulesEscape) : v.Troubled :=
  ListEscapes.troubled (fun _ => RuleEscapes.troubled) h

theorem OpenerEscapes.troubled {v : Value} (h : v.OpenerEscapes) : v.Troubled := by
  cases h with
  | shown _ hwritable => exact troubled_of_not_writable hwritable
  | command hwritable => exact (troubled_of_not_writable hwritable).of_get
  | condition _ _ _ hrules => exact hrules.troubled.of_get

theorem EscapesAt.troubled {document : Value} {part : Part} (h : document.EscapesAt part) :
    document.Troubled := by
  have hnone {v : Value} (h : v.MappingEscapes (fun _ => True) fun _ => False) : v.Troubled :=
    h.troubled nofun
  cases part with
  | whole => exact hnone h
  | calendars =>
      have hpart := ListEscapes.troubled (fun _ => PatternEscapes.troubled) h
      exact hpart.of_get
  | urls => exact (hnone h).of_get
  | ignore =>
      have hpart := ListEscapes.troubled (fun _ => RuleEscapes.troubled) h
      exact hpart.of_get.of_get
  | accounts => exact (hnone h).of_get.of_get
  | accountsOf service =>
      have hpart : (((document.get "urls").get "account").get service).Troubled := by
        apply MappingEscapes.troubled _ h
        rintro entry (hwritable | hrules)
        · exact Or.inl (troubled_of_not_writable hwritable)
        · exact Or.inr hrules.troubled
      exact hpart.of_get.of_get.of_get
  | openers =>
      have hpart := ListEscapes.troubled (fun _ => OpenerEscapes.troubled) h
      exact hpart.of_get.of_get
  | opener => cases h

end Value

/-- A document is neither accepted nor rejected exactly if a part of it escapes and those looked at before
it have their shape, and then a whole number that cannot be written stands in it, or a regular expression
with a number that is too large, or with two kinds of characters. -/
theorem Configuration.ofValue_escapes (document : Value) :
    ((∃ fault, Configuration.ofValue document = .error fault ∧ fault.standing ≠ .rejection) ↔
        FirstBad document.Fits document.EscapesAt Part.inOrder) ∧
      ((∃ config, Configuration.ofValue document = .ok config) ∨
        (∃ fault, Configuration.ofValue document = .error fault ∧ fault.standing = .rejection) ∨
        document.Troubled) := by
  have hescapes := Configuration.escapes_ofValue_iff document
  refine ⟨hescapes, ?_⟩
  cases hdocument : Configuration.ofValue document with
  | ok config => exact Or.inl ⟨config, rfl⟩
  | error fault =>
      by_cases hstanding : fault.standing = .rejection
      · exact Or.inr (Or.inl ⟨fault, rfl, hstanding⟩)
      · obtain ⟨part, -, hpart⟩ := (hescapes.1 ⟨fault, hdocument, hstanding⟩).exists_bad
        exact Or.inr (Or.inr hpart.troubled)

/-- A document with one calendar, which is given by a regular expression. -/
def regexpDocument (source : Text) : Value :=
  .mapping [(.text "calendars".toList, .list [.mapping
    [(.text "type".toList, .text "regexp".toList), (.text "pattern".toList, .text source)]])]

/-- A number of repetitions that does not fit into 32 bits is no flaw of its text, and so the document with
it is not rejected. -/
theorem Configuration.ofValue_repetition_too_large :
    ∃ fault, Configuration.ofValue (regexpDocument "a\x7b4294967295\x7d".toList) = .error fault ∧
      fault.standing = .overflow := by
  have hstanding : (match Configuration.ofValue (regexpDocument "a\x7b4294967295\x7d".toList) with
      | .ok _ => none
      | .error fault => some fault.standing) = some .overflow := by decide +kernel
  cases hdocument : Configuration.ofValue (regexpDocument "a\x7b4294967295\x7d".toList) with
  | ok config =>
      rw [hdocument] at hstanding
      cases hstanding
  | error fault =>
      rw [hdocument] at hstanding
      exact ⟨fault, rfl, Option.some.inj hstanding⟩

end AgendaLinks
