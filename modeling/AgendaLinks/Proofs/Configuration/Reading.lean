import AgendaLinks.Link.Agenda
import AgendaLinks.Proofs.Rule.Reading
import AgendaLinks.Shell.Opener

/-!
Configurations as a document states them. The links to ignore, the accounts, the commands and the
calendars that a configuration tells are those that are read off the values of its document.
-/

namespace AgendaLinks

namespace Value

/-- The entries of a mapping; other values have none. -/
def entries : Value → List (Value × Value)
  | mapping entries => entries
  | _ => []

/-- The items of a list; other values have none. -/
def items : Value → List Value
  | list items => items
  | _ => []

/-- The value under a key. -/
def get (v : Value) (key : String) : Value := lookup key.toList v.entries

/-- A command is for the links of an event if its condition is empty or holds. -/
def OpensFor (entry : Value) (e : Event) (link : Option Text) : Prop :=
  (entry.get "if").isEmpty = true ∨ (entry.get "if").RulesHold e link

end Value

theorem entries_of_entriesOf {part : Part} {v : Value} {entries : List (Value × Value)}
    (h : entriesOf part v = .ok entries) : v.entries = entries := by
  cases v <;> cases h <;> rfl

theorem items_of_itemsOf {part : Part} {v : Value} {items : List Value}
    (h : itemsOf part v = .ok items) : v.items = items := by
  cases v <;> cases h <;> rfl

theorem Choice.ofAccount_eq_ok {entry : Value × Value} {c : Choice}
    (h : Choice.ofAccount entry = .ok c) :
    c.chosen = entry.1.plain ∧ Rule.listOfValue entry.2 = .ok c.rules := by
  obtain ⟨name, rules⟩ := entry
  rw [ofAccount] at h
  split_ifs at h
  obtain ⟨made, hmade, rfl⟩ := exists_of_map_eq_ok h
  exact ⟨rfl, hmade⟩

theorem Choice.ofOpener_eq_ok {entry : Value} {c : Choice} (h : Choice.ofOpener entry = .ok c) :
    entry.get "with" = .text c.chosen ∧
      Rule.listOfValue (if (entry.get "if").isEmpty then .null else entry.get "if") = .ok c.rules := by
  obtain ⟨entries, hentries, h⟩ := exists_of_bind_eq_ok h
  rw [Value.get, Value.get, entries_of_entriesOf hentries]
  cases hwith : Value.lookup "with".toList entries with
  | text template =>
      simp only [hwith] at h
      by_cases hcount : Text.countOf ConfigurationFault.placeholder template = 1
      · rw [if_pos hcount] at h
        obtain ⟨made, hmade, rfl⟩ := exists_of_map_eq_ok h
        exact ⟨rfl, hmade⟩
      · rw [if_neg hcount] at h
        cases h
  | _ =>
      simp only [hwith] at h
      cases h

/-- Each part of a configuration is made item by item of its part of the document. -/
theorem Configuration.ofValue_eq_ok {document : Value} {c : Configuration}
    (h : Configuration.ofValue document = .ok c) :
    (document.get "calendars").items.mapM Pattern.ofValue = .ok c.calendars ∧
      ((document.get "urls").get "ignore").items.mapM Rule.ofValue = .ok c.ignore ∧
      (∀ kind : AccountKind, (((document.get "urls").get "account").get kind.name).entries.mapM
        Choice.ofAccount = .ok (c.accounts kind)) ∧
      ((document.get "urls").get "open").items.mapM Choice.ofOpener = .ok c.openers := by
  obtain ⟨root, hroot, h⟩ := exists_of_bind_eq_ok h
  obtain ⟨urls, hurls, h⟩ := exists_of_bind_eq_ok h
  obtain ⟨accounts, haccounts, h⟩ := exists_of_bind_eq_ok h
  obtain ⟨titles, htitles, h⟩ := exists_of_bind_eq_ok h
  obtain ⟨calendars, hcalendars, h⟩ := exists_of_bind_eq_ok h
  obtain ⟨ignored, hignored, h⟩ := exists_of_bind_eq_ok h
  obtain ⟨ignore, hignore, h⟩ := exists_of_bind_eq_ok h
  obtain ⟨google, hgoogle, h⟩ := exists_of_bind_eq_ok h
  obtain ⟨zoom, hzoom, h⟩ := exists_of_bind_eq_ok h
  obtain ⟨opened, hopened, h⟩ := exists_of_bind_eq_ok h
  obtain ⟨openers, hopeners, h⟩ := exists_of_bind_eq_ok h
  cases h
  have hurls' : (document.get "urls").entries = urls := by
    rw [Value.get, entries_of_entriesOf hroot, entries_of_entriesOf hurls]
  have haccounts' : ((document.get "urls").get "account").entries = accounts := by
    rw [Value.get, hurls', entries_of_entriesOf haccounts]
  refine ⟨?_, ?_, ?_, ?_⟩
  · rw [Value.get, entries_of_entriesOf hroot, items_of_itemsOf htitles]
    exact hcalendars
  · rw [Value.get, hurls', items_of_itemsOf hignored]
    exact hignore
  · intro kind
    rw [Value.get, haccounts']
    cases kind with
    | google =>
        obtain ⟨entries, hentries, hmade⟩ := exists_of_bind_eq_ok hgoogle
        rw [entries_of_entriesOf hentries]
        exact hmade
    | zoom =>
        obtain ⟨entries, hentries, hmade⟩ := exists_of_bind_eq_ok hzoom
        rw [entries_of_entriesOf hentries]
        exact hmade
  · rw [Value.get, hurls', items_of_itemsOf hopened]
    exact hopeners

theorem Link.value_isIgnored (rules : List Rule) (e : Event) (link : Text) :
    (isIgnored rules e link).value = Rule.anyApplies rules e (some link) := by
  rw [isIgnored]
  split_ifs with h
  · exact h.symm
  · exact (Bool.eq_false_iff.2 h).symm

theorem Shell.value_template (openers : List Choice) (fallback : Text) (e : Event) (link : Text) :
    (template openers fallback e link).value =
      (Choice.first? openers e (some link)).getD fallback := by
  rw [template]
  cases Choice.first? openers e (some link) <;> rfl

theorem Choice.anyApplies_iff_of_account {entry : Value × Value} {c : Choice}
    (h : Choice.ofAccount entry = .ok c) (e : Event) (link : Option Text) :
    Rule.anyApplies c.rules e link = true ↔ entry.2.RulesHold e link :=
  Rule.anyApplies_iff (Choice.ofAccount_eq_ok h).2 e link

theorem Choice.anyApplies_iff_of_opener {entry : Value} {c : Choice}
    (h : Choice.ofOpener entry = .ok c) (e : Event) (link : Option Text) :
    Rule.anyApplies c.rules e link = true ↔ entry.OpensFor e link := by
  rw [Rule.anyApplies_iff (Choice.ofOpener_eq_ok h).2, Value.OpensFor]
  split_ifs with hempty
  · exact iff_of_true .null (Or.inl hempty)
  · exact ⟨Or.inr, fun hholds => hholds.resolve_left hempty⟩

/-- A configuration does what its document tells: it ignores the links that a rule of the document holds
for, takes the account and the command of the first entry that holds, and reads the calendars that a
pattern matches, or all if there is none. -/
theorem Configuration.reads_document {document : Value} {c : Configuration}
    (h : Configuration.ofValue document = .ok c) (e : Event) :
    (∀ link, (Link.isIgnored c.ignore e link).value = true ↔
      ∃ rule ∈ ((document.get "urls").get "ignore").items, rule.RuleHolds e (some link)) ∧
    (∀ (kind : AccountKind) (link : Option Text), ∃ found,
      IsFirst (fun entry => entry.2.RulesHold e link)
        (((document.get "urls").get "account").get kind.name).entries found ∧
      c.account? kind e link = found.map fun entry => entry.1.plain) ∧
    (∀ (fallback link : Text), ∃ found,
      IsFirst (fun entry => entry.OpensFor e (some link))
        ((document.get "urls").get "open").items found ∧
      match found with
      | some entry => entry.get "with" = .text (Shell.template c.openers fallback e link).value
      | none => (Shell.template c.openers fallback e link).value = fallback) ∧
    ∀ title, c.includes title = true ↔
      (document.get "calendars").items = [] ∨
        ∃ pattern ∈ (document.get "calendars").items, pattern.Matches title := by
  obtain ⟨hcalendars, hignore, haccounts, hopeners⟩ := Configuration.ofValue_eq_ok h
  refine ⟨?_, ?_, ?_, ?_⟩
  · intro link
    rw [Link.value_isIgnored]
    exact any_iff_of_forall₂ (forall₂_of_mapM_eq_ok hignore)
      fun rule r hr => Rule.applies_iff hr e (some link)
  · intro kind link
    obtain ⟨found, hfirst, hrel⟩ := isFirst_of_forall₂ (forall₂_of_mapM_eq_ok (haccounts kind))
      fun entry choice hchoice => Choice.anyApplies_iff_of_account hchoice e link
    refine ⟨found, hfirst, ?_⟩
    rw [account?, Choice.first?]
    generalize (c.accounts kind).find? _ = chosen at hrel ⊢
    cases hrel with
    | none => rfl
    | some hchoice => rw [Option.map_some, Option.map_some, (Choice.ofAccount_eq_ok hchoice).1]
  · intro fallback link
    obtain ⟨found, hfirst, hrel⟩ := isFirst_of_forall₂ (forall₂_of_mapM_eq_ok hopeners)
      fun entry choice hchoice => Choice.anyApplies_iff_of_opener hchoice e (some link)
    refine ⟨found, hfirst, ?_⟩
    rw [Shell.value_template, Choice.first?]
    generalize c.openers.find? _ = chosen at hrel ⊢
    cases hrel with
    | none => rfl
    | some hchoice => exact (Choice.ofOpener_eq_ok hchoice).1
  · intro title
    have hmade := forall₂_of_mapM_eq_ok hcalendars
    have hempty : c.calendars.isEmpty = true ↔ (document.get "calendars").items = [] := by
      rw [List.isEmpty_iff_length_eq_zero, ← hmade.length_eq, List.length_eq_zero_iff]
    rw [includes, Bool.or_eq_true, hempty]
    exact or_congr Iff.rfl (any_iff_of_forall₂ hmade fun v p hp => Pattern.accepts_iff hp title)

/-- A document that ignores links in which "/docs" occurs. -/
theorem Configuration.reads_document_docs :
    ∃ c, Configuration.ofValue (.mapping [(.text "urls".toList, .mapping [(.text "ignore".toList,
      .list [.mapping [(.text "url".toList, .mapping [(.text "type".toList, .text "regexp".toList),
        (.text "pattern".toList, .text "/docs".toList)])]])])]) = .ok c ∧
      ∀ e, (Link.isIgnored c.ignore e "https://a.org/docs/1".toList).value = true := by
  obtain ⟨r, hcompile, hoccurs⟩ : ∃ r, Regexp.compile "/docs".toList = .ok r ∧
      r.occursIn "https://a.org/docs/1".toList = true := ⟨_, rfl, by decide +kernel⟩
  refine Exists.imp (fun c hc => ⟨hc, fun e => ?_⟩) ⟨_, rfl⟩
  refine ((reads_document hc e).1 _).2 ⟨_, List.mem_singleton.2 rfl, .mapping ?_⟩
  exact List.forall_mem_singleton.2 ⟨_, _, rfl, .url rfl, .regexp rfl rfl hcompile hoccurs⟩

end AgendaLinks
