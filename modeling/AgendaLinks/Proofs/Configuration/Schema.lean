import AgendaLinks.Proofs.Configuration.Reading
import AgendaLinks.Proofs.Text.Cuts

/-!
The documents that are configurations. The shape of each part is stated by itself: null stands for a
part that is left out, and what is no part of a configuration may stand in a mapping without being
looked at. The reader accepts the documents of this shape and no others, and what it makes has one entry
for each one of the document.
-/

namespace AgendaLinks

open ConfigurationFault (placeholder)

namespace Value

/-- The values of a JSON document, in which every key is a text. -/
inductive IsJson : Value → Prop where
  | null : IsJson .null
  | bool (b : Bool) : IsJson (.bool b)
  | int (i : Int) : IsJson (.int i)
  | float (d : Double) : IsJson (.float d)
  | text (t : Text) : IsJson (.text t)
  | list {items : List Value} : (∀ item ∈ items, IsJson item) → IsJson (.list items)
  | mapping {entries : List (Value × Value)} : (∀ entry ∈ entries, ∃ key, entry.1 = .text key) →
      (∀ entry ∈ entries, IsJson entry.2) → IsJson (.mapping entries)

/-- Null, or a list whose items have a property. -/
inductive ListOf (P : Value → Prop) : Value → Prop where
  | null : ListOf P .null
  | list {items : List Value} : (∀ item ∈ items, P item) → ListOf P (.list items)

/-- Null, or a mapping whose entries have a property. -/
inductive MappingOf (P : Value × Value → Prop) : Value → Prop where
  | null : MappingOf P .null
  | mapping {entries : List (Value × Value)} : (∀ entry ∈ entries, P entry) → MappingOf P (.mapping entries)

/-- Null, a text, or a mapping with a regular expression that can be compiled. -/
inductive IsPattern : Value → Prop where
  | null : IsPattern .null
  | text (t : Text) : IsPattern (.text t)
  | regexp {entries : List (Value × Value)} {source : Text} {r : Regexp} :
      lookup "type".toList entries = .text "regexp".toList →
      lookup "pattern".toList entries = .text source →
      Regexp.compile source = .ok r → IsPattern (.mapping entries)

/-- The keys that a rule may have. -/
def ruleKeys : List String := ["calendar", "title", "location", "notes", "url", "attendee"]

def IsRule : Value → Prop :=
  MappingOf fun entry => (∃ key ∈ ruleKeys, entry.1 = .text key.toList) ∧ entry.2.IsPattern

def IsRules : Value → Prop := ListOf IsRule

/-- A mapping with a command, in which the place of the link stands exactly once, and with a condition
that counts as absent or is a list of rules. -/
structure IsOpener (entry : Value) : Prop where
  mapping : ∃ entries, entry = .mapping entries
  command : ∃ template, entry.get "with" = .text template ∧
    ∃! left, ∃ right, template = left ++ placeholder ++ right
  condition : (entry.get "if").isEmpty = true ∨ (entry.get "if").IsRules

/-- The shape of a configuration. -/
structure IsConfiguration (document : Value) : Prop where
  whole : document.MappingOf fun _ => True
  calendars : (document.get "calendars").ListOf IsPattern
  urls : (document.get "urls").MappingOf fun _ => True
  ignore : ((document.get "urls").get "ignore").ListOf IsRule
  accounts : ((document.get "urls").get "account").MappingOf fun _ => True
  google : (((document.get "urls").get "account").get "google").MappingOf fun entry => entry.2.IsRules
  zoom : (((document.get "urls").get "account").get "zoom").MappingOf fun entry => entry.2.IsRules
  openers : ((document.get "urls").get "open").ListOf IsOpener

/-- Whether an entry of a mapping has a key. -/
def hasKey (key : String) (entry : Value × Value) : Bool :=
  match entry.1 with
  | text t => t == key.toList
  | _ => false

/-- A mapping without the entries that have none of some keys. -/
def only (keys : List String) : Value → Value
  | mapping entries => mapping (entries.filter fun entry => keys.any fun key => hasKey key entry)
  | v => v

/-- A mapping in which the value under a key is changed. -/
def change (key : String) (f : Value → Value) : Value → Value
  | mapping entries =>
    mapping (entries.map fun entry => (entry.1, if hasKey key entry then f entry.2 else entry.2))
  | v => v

/-- The part about links without the entries that are no parts of a configuration. -/
def knownUrls (urls : Value) : Value :=
  (urls.only ["ignore", "account", "open"]).change "account" (only ["google", "zoom"])

/-- A document without the entries that are no parts of a configuration. -/
def known (document : Value) : Value :=
  (document.only ["calendars", "urls"]).change "urls" knownUrls

theorem listOf_iff {P : Value → Prop} {v : Value} :
    v.ListOf P ↔ (v.ListOf fun _ => True) ∧ ∀ item ∈ v.items, P item := by
  constructor
  · rintro (_ | hitems)
    · exact ⟨.null, nofun⟩
    · exact ⟨.list fun _ _ => trivial, hitems⟩
  · rintro ⟨_ | _, hitems⟩
    · exact .null
    · exact .list hitems

theorem mappingOf_iff {P : Value × Value → Prop} {v : Value} :
    v.MappingOf P ↔ (v.MappingOf fun _ => True) ∧ ∀ entry ∈ v.entries, P entry := by
  constructor
  · rintro (_ | hentries)
    · exact ⟨.null, nofun⟩
    · exact ⟨.mapping fun _ _ => trivial, hentries⟩
  · rintro ⟨_ | _, hentries⟩
    · exact .null
    · exact .mapping hentries

theorem hasKey_eq_true_iff {key : String} {entry : Value × Value} :
    hasKey key entry = true ↔ entry.1 = .text key.toList := by
  obtain ⟨k, v⟩ := entry
  cases k with
  | text t => simp [hasKey]
  | _ => exact iff_of_false Bool.false_ne_true nofun

theorem lookup?_eq_find? (key : String) (entries : List (Value × Value)) :
    lookup? key.toList entries = (entries.find? (hasKey key)).map (·.2) := by
  fun_induction lookup? key.toList entries with
  | case1 => rfl
  | case2 v rest =>
      rw [List.find?_cons_of_pos (hasKey_eq_true_iff.2 rfl)]
      rfl
  | case3 k v rest hne ih =>
      rw [ih, List.find?_cons_of_neg]
      rw [hasKey_eq_true_iff, text.injEq]
      exact hne
  | case4 first rest hkey ih =>
      rw [ih, List.find?_cons_of_neg]
      rw [hasKey_eq_true_iff]
      exact fun hfirst => hkey _ _ (Prod.ext hfirst rfl)

end Value

theorem itemsOf_eq_ok_iff {part : Part} {v : Value} {items : List Value} :
    itemsOf part v = .ok items ↔ (v.ListOf fun _ => True) ∧ v.items = items := by
  constructor
  · intro h
    refine ⟨?_, items_of_itemsOf h⟩
    cases v with
    | null => exact .null
    | list items => exact .list fun _ _ => trivial
    | _ => cases h
  · rintro ⟨_ | _, rfl⟩ <;> rfl

theorem entriesOf_eq_ok_iff {part : Part} {v : Value} {entries : List (Value × Value)} :
    entriesOf part v = .ok entries ↔ (v.MappingOf fun _ => True) ∧ v.entries = entries := by
  constructor
  · intro h
    refine ⟨?_, entries_of_entriesOf h⟩
    cases v with
    | null => exact .null
    | mapping entries => exact .mapping fun _ _ => trivial
    | _ => cases h
  · rintro ⟨_ | _, rfl⟩ <;> rfl

theorem Pattern.exists_ofValue_iff {v : Value} : (∃ p, Pattern.ofValue v = .ok p) ↔ v.IsPattern := by
  constructor
  · rintro ⟨p, h⟩
    cases v with
    | null => exact .null
    | text t => exact .text t
    | mapping entries =>
        obtain ⟨source, r, htype, hpattern, hcompile, -⟩ := Pattern.ofValue_mapping h
        exact .regexp htype hpattern hcompile
    | _ => cases h
  · rintro (_ | _ | @⟨_, _, r, htype, hpattern, hcompile⟩)
    · exact ⟨_, rfl⟩
    · exact ⟨_, rfl⟩
    · refine ⟨.regexp r, ?_⟩
      rw [Pattern.ofValue, htype, hpattern]
      simp only [beq_self_eq_true, if_true, hcompile]

/-- The names of the fields are the keys that a rule may have. -/
theorem Field.exists_named?_iff {name : Text} :
    (∃ field, Field.named? name = some field) ↔ ∃ key ∈ Value.ruleKeys, key.toList = name := by
  have hkeys : Value.ruleKeys = Field.all.map Field.name := rfl
  rw [← Option.isSome_iff_exists, Field.named?, List.find?_isSome, hkeys]
  simp

theorem Constraint.exists_ofEntry_iff {entry : Value × Value} :
    (∃ c, Constraint.ofEntry entry = .ok c) ↔
      (∃ key ∈ Value.ruleKeys, entry.1 = .text key.toList) ∧ entry.2.IsPattern := by
  constructor
  · rintro ⟨c, h⟩
    obtain ⟨hkey, hpattern⟩ := Constraint.ofEntry_eq_ok h
    refine ⟨⟨c.field.name, ?_, hkey⟩, Pattern.exists_ofValue_iff.1 ⟨_, hpattern⟩⟩
    cases c.field <;> decide
  · obtain ⟨key, value⟩ := entry
    rintro ⟨⟨name, hname, rfl⟩, hpattern⟩
    obtain ⟨field, hfield⟩ := Field.exists_named?_iff.2 ⟨name, hname, rfl⟩
    obtain ⟨p, hp⟩ := Pattern.exists_ofValue_iff.2 hpattern
    refine ⟨⟨field, p⟩, ?_⟩
    rw [Constraint.ofEntry]
    simp only [hfield]
    rw [hp]
    rfl

theorem Rule.exists_ofValue_iff {v : Value} : (∃ r, Rule.ofValue v = .ok r) ↔ v.IsRule := by
  cases v with
  | null => exact iff_of_true ⟨_, rfl⟩ .null
  | mapping entries =>
      rw [Rule.ofValue, exists_map_eq_ok_iff, exists_mapM_eq_ok_iff]
      simp only [Constraint.exists_ofEntry_iff]
      exact ⟨.mapping, fun | .mapping hentries => hentries⟩
  | _ => exact iff_of_false nofun nofun

theorem Rule.exists_listOfValue_iff {v : Value} :
    (∃ rules, Rule.listOfValue v = .ok rules) ↔ v.IsRules := by
  cases v with
  | null => exact iff_of_true ⟨_, rfl⟩ .null
  | list items =>
      rw [Rule.listOfValue, exists_mapM_eq_ok_iff]
      simp only [Rule.exists_ofValue_iff]
      exact ⟨.list, fun | .list hitems => hitems⟩
  | _ => exact iff_of_false nofun nofun

theorem Choice.exists_ofAccount_iff {entry : Value × Value} (h : entry.1.writable = true) :
    (∃ c, Choice.ofAccount entry = .ok c) ↔ entry.2.IsRules := by
  obtain ⟨name, rules⟩ := entry
  rw [Choice.ofAccount, if_pos h, exists_map_eq_ok_iff, Rule.exists_listOfValue_iff]

/-- Two places of the link in a command do not overlap. -/
theorem places_apart {left left' right right' : Text} (hfirst : left <+: left')
    (h : left ++ placeholder ++ right = left' ++ placeholder ++ right') :
    left' = left ∨ ∃ between, right = between ++ placeholder ++ right' := by
  obtain ⟨further, rfl⟩ := hfirst
  rw [List.append_assoc, List.append_assoc left, List.append_assoc left, List.append_cancel_left_eq] at h
  match further with
  | [] => exact Or.inl (List.append_nil left)
  | [c] => exact absurd h (by simp [placeholder])
  | c :: d :: further =>
      refine Or.inr ⟨further, ?_⟩
      simpa [placeholder] using (List.cons.inj (List.cons.inj h).2).2

theorem countOf_placeholder_eq_one_iff {t : Text} : Text.countOf placeholder t = 1 ↔
    ∃! left, ∃ right, t = left ++ placeholder ++ right := by
  have hne : placeholder ≠ [] := by
    decide
  rw [Text.countOf, if_neg (by decide)]
  split
  · rename_i hcut
    refine iff_of_false (by omega) ?_
    rintro ⟨left, hleft, -⟩
    exact Text.cutAt_eq_none_iff.1 hcut ⟨left, hleft⟩
  · rename_i left right hcut
    obtain ⟨ht, hfirst⟩ := Text.cutAt_eq_some hcut
    rw [Nat.add_eq_left, Text.countOf_eq_zero_iff hne]
    constructor
    · intro hnone
      refine ⟨left, ⟨right, ht⟩, ?_⟩
      rintro left' ⟨right', ht'⟩
      refine (places_apart (hfirst left' right' ht') (ht.symm.trans ht')).resolve_right ?_
      rintro ⟨between, hright⟩
      exact hnone ⟨between, right', hright⟩
    · rintro ⟨only, -, honly⟩ ⟨between, right', rfl⟩
      -- the first place and the one behind it would be two
      have hsame := (honly left ⟨_, ht⟩).trans
        (honly (left ++ placeholder ++ between) ⟨right', by simp [ht]⟩).symm
      have hlength := congrArg List.length hsame
      simp [placeholder] at hlength

theorem Choice.exists_ofOpener_iff {v : Value} : (∃ c, Choice.ofOpener v = .ok c) ↔ v.IsOpener := by
  cases v with
  | mapping entries =>
      cases hwith : Value.lookup "with".toList entries with
      | text template =>
          by_cases hcount : Text.countOf placeholder template = 1
          · simp only [Choice.ofOpener, entriesOf, bind, Except.bind, hwith, if_pos hcount]
            rw [exists_map_eq_ok_iff, Rule.exists_listOfValue_iff]
            constructor
            · intro hrules
              refine ⟨⟨entries, rfl⟩, ⟨template, hwith, countOf_placeholder_eq_one_iff.1 hcount⟩, ?_⟩
              split_ifs at hrules with hempty
              · exact Or.inl hempty
              · exact Or.inr hrules
            · rintro ⟨-, -, hcondition⟩
              split_ifs with hempty
              · exact .null
              · exact hcondition.resolve_left hempty
          · simp only [Choice.ofOpener, entriesOf, bind, Except.bind, hwith, if_neg hcount]
            refine iff_of_false nofun ?_
            rintro ⟨-, ⟨template', hwith', honce⟩, -⟩
            cases hwith.symm.trans hwith'
            exact hcount (countOf_placeholder_eq_one_iff.2 honce)
      | _ =>
          simp only [Choice.ofOpener, entriesOf, bind, Except.bind, hwith]
          refine iff_of_false nofun ?_
          rintro ⟨-, ⟨template, hwith', -⟩, -⟩
          cases hwith.symm.trans hwith'
  | _ => exact iff_of_false (fun ⟨_, h⟩ => by cases h) fun ⟨⟨_, h⟩, _, _⟩ => by cases h

theorem Value.IsJson.key_of_mem_entries {v : Value} (h : v.IsJson) {entry : Value × Value}
    (hentry : entry ∈ v.entries) : ∃ key, entry.1 = .text key := by
  cases h with
  | mapping hkeys => exact hkeys entry hentry
  | _ => cases hentry

theorem Choice.exists_accountsOf_iff (kind : AccountKind) {accounts : List (Value × Value)}
    (h : (Value.lookup kind.name.toList accounts).IsJson) :
    (∃ choices, accountsOf kind accounts = .ok choices) ↔
      (Value.lookup kind.name.toList accounts).MappingOf fun entry => entry.2.IsRules := by
  rw [accountsOf, exists_bind_eq_ok_iff, Value.mappingOf_iff]
  simp only [entriesOf_eq_ok_iff, exists_mapM_eq_ok_iff, and_assoc, exists_and_left, exists_eq_left']
  refine and_congr_right fun _ => forall₂_congr fun entry hentry => Choice.exists_ofAccount_iff ?_
  obtain ⟨key, hkey⟩ := h.key_of_mem_entries hentry
  rw [hkey]
  rfl

theorem Value.IsJson.get {v : Value} (h : v.IsJson) (key : String) : (v.get key).IsJson := by
  cases h with
  | @mapping entries _ hentries =>
      show (lookup key.toList entries).IsJson
      rw [lookup, lookup?_eq_find?]
      cases hfound : entries.find? (hasKey key) with
      | none => exact .null
      | some entry => exact hentries entry (List.mem_of_find?_eq_some hfound)
  | _ => exact .null

/-- A JSON document is accepted exactly if it has the shape of a configuration. -/
theorem Configuration.exists_ofValue_iff {document : Value} (h : document.IsJson) :
    (∃ c, Configuration.ofValue document = .ok c) ↔ document.IsConfiguration := by
  have haccounts := (h.get "urls").get "account"
  have hgoogle := Choice.exists_accountsOf_iff .google (haccounts.get "google")
  have hzoom := Choice.exists_accountsOf_iff .zoom (haccounts.get "zoom")
  have hmade (c : Configuration) :
      (∃ b, (pure c : Except ConfigurationFault Configuration) = .ok b) ↔ True :=
    iff_of_true ⟨c, rfl⟩ trivial
  simp only [Value.get] at hgoogle hzoom
  simp only [Configuration.ofValue, exists_bind_eq_ok_iff, entriesOf_eq_ok_iff, itemsOf_eq_ok_iff,
    and_assoc, exists_and_left, exists_eq_left', hmade, and_true, exists_and_right,
    exists_mapM_eq_ok_iff, Pattern.exists_ofValue_iff, Rule.exists_ofValue_iff,
    Choice.exists_ofOpener_iff, hgoogle, hzoom]
  constructor
  · rintro ⟨hwhole, hurls, haccounts, hlist, hcalendars, hlist', hignore, hgoogle, hzoom, hlist'',
      hopeners⟩
    exact ⟨hwhole, Value.listOf_iff.2 ⟨hlist, hcalendars⟩, hurls, Value.listOf_iff.2 ⟨hlist', hignore⟩,
      haccounts, hgoogle, hzoom, Value.listOf_iff.2 ⟨hlist'', hopeners⟩⟩
  · intro hshape
    obtain ⟨hlist, hcalendars⟩ := Value.listOf_iff.1 hshape.calendars
    obtain ⟨hlist', hignore⟩ := Value.listOf_iff.1 hshape.ignore
    obtain ⟨hlist'', hopeners⟩ := Value.listOf_iff.1 hshape.openers
    exact ⟨hshape.whole, hshape.urls, hshape.accounts, hlist, hcalendars, hlist', hignore,
      hshape.google, hshape.zoom, hlist'', hopeners⟩

namespace Value

theorem lookup_only {keys : List String} {key : String} (h : key ∈ keys)
    (entries : List (Value × Value)) :
    lookup key.toList (entries.filter fun entry => keys.any fun key => hasKey key entry) =
      lookup key.toList entries := by
  rw [lookup, lookup, lookup?_eq_find?, lookup?_eq_find?, List.find?_filter]
  congr 3
  funext entry
  cases hkey : hasKey key entry with
  | false => simp
  | true => simpa using ⟨key, h, hkey⟩

theorem lookup_only_of_not_mem {keys : List String} {key : String} (h : key ∉ keys)
    (entries : List (Value × Value)) :
    lookup key.toList (entries.filter fun entry => keys.any fun key => hasKey key entry) = .null := by
  have hnone : (entries.filter fun entry => keys.any fun key => hasKey key entry).find?
      (hasKey key) = none := by
    rw [List.find?_eq_none]
    intro entry hentry hkey
    obtain ⟨-, hany⟩ := List.mem_filter.1 hentry
    obtain ⟨other, hother, hotherkey⟩ := List.any_eq_true.1 hany
    have hsame := (hasKey_eq_true_iff.1 hkey).symm.trans (hasKey_eq_true_iff.1 hotherkey)
    rw [text.injEq, String.toList_inj] at hsame
    exact h (hsame ▸ hother)
  rw [lookup, lookup?_eq_find?, hnone]
  rfl

theorem lookup_change (key key' : String) {f : Value → Value} (hf : f .null = .null)
    (entries : List (Value × Value)) :
    lookup key'.toList
        (entries.map fun entry => (entry.1, if hasKey key entry then f entry.2 else entry.2)) =
      if key' = key then f (lookup key'.toList entries) else lookup key'.toList entries := by
  have hkeys : (hasKey key' ∘ fun entry : Value × Value =>
      (entry.1, if hasKey key entry then f entry.2 else entry.2)) = hasKey key' := rfl
  rw [lookup, lookup, lookup?_eq_find?, lookup?_eq_find?, List.find?_map, hkeys]
  cases hfind : entries.find? (hasKey key') with
  | none =>
      split_ifs
      · exact hf.symm
      · rfl
  | some entry =>
      have hentry := hasKey_eq_true_iff.1 (List.find?_some hfind)
      have hkey : hasKey key entry = true ↔ key' = key := by
        rw [hasKey_eq_true_iff, hentry, text.injEq, String.toList_inj]
      simp only [Option.map_some, Option.getD_some, hkey]

/-- What is left of a mapping has the same values under the keys that are left, apart from the one that
is changed. -/
theorem exists_known_entries (keys : List String) (key : String) {f : Value → Value}
    (hf : f .null = .null) (entries : List (Value × Value)) :
    ∃ entries', ((mapping entries).only keys).change key f = .mapping entries' ∧
      ∀ key' ∈ keys, lookup key'.toList entries' =
        if key' = key then f (lookup key'.toList entries) else lookup key'.toList entries := by
  refine ⟨_, rfl, fun key' hkey => ?_⟩
  rw [lookup_change key key' hf, lookup_only hkey]

end Value

theorem Pattern.ofValue_only (v : Value) :
    Pattern.ofValue (v.only ["type", "pattern"]) = Pattern.ofValue v := by
  cases v with
  | mapping entries =>
      rw [Value.only, Pattern.ofValue, Pattern.ofValue,
        Value.lookup_only (show "type" ∈ ["type", "pattern"] by decide),
        Value.lookup_only (show "pattern" ∈ ["type", "pattern"] by decide)]
  | _ => rfl

theorem Choice.ofOpener_only (v : Value) :
    Choice.ofOpener (v.only ["with", "if"]) = Choice.ofOpener v := by
  cases v with
  | mapping entries =>
      simp only [Value.only, Choice.ofOpener, entriesOf, bind, Except.bind,
        Value.lookup_only (show "with" ∈ ["with", "if"] by decide),
        Value.lookup_only (show "if" ∈ ["with", "if"] by decide)]
  | _ => rfl

theorem accountsOf_only (kind : AccountKind) (accounts : List (Value × Value)) :
    accountsOf kind (accounts.filter fun entry => ["google", "zoom"].any fun key => Value.hasKey key entry) =
      accountsOf kind accounts := by
  have hkind : kind.name ∈ ["google", "zoom"] := by
    cases kind <;> decide
  rw [accountsOf, accountsOf, Value.lookup_only hkind]

/-- What is no part of a configuration is not looked at. -/
theorem Configuration.ofValue_known (document : Value) :
    Configuration.ofValue document.known = Configuration.ofValue document := by
  cases document with
  | mapping root =>
      obtain ⟨root', hroot, hlookup⟩ :=
        Value.exists_known_entries ["calendars", "urls"] "urls" (f := Value.knownUrls) rfl root
      have hcalendars := hlookup "calendars" (by decide)
      have hurls := hlookup "urls" (by decide)
      rw [if_neg (by decide)] at hcalendars
      rw [if_pos rfl] at hurls
      rw [Value.known, hroot]
      simp only [Configuration.ofValue, entriesOf, bind, Except.bind, hcalendars, hurls]
      cases Value.lookup "urls".toList root with
      | mapping urls =>
          obtain ⟨urls', hurls', hlookup'⟩ := Value.exists_known_entries
            ["ignore", "account", "open"] "account" (f := Value.only ["google", "zoom"]) rfl urls
          have hignore := hlookup' "ignore" (by decide)
          have hopeners := hlookup' "open" (by decide)
          have haccounts := hlookup' "account" (by decide)
          rw [if_neg (by decide)] at hignore hopeners
          rw [if_pos rfl] at haccounts
          rw [Value.knownUrls, hurls']
          simp only [hignore, hopeners, haccounts]
          cases Value.lookup "account".toList urls with
          | mapping accounts => simp only [Value.only, accountsOf_only]
          | _ => rfl
      | _ => rfl
  | _ => rfl

/-- A JSON document is accepted exactly if it has the shape of a configuration. Every section of the
configuration then has one entry for each one of the document, in the same order, and entries under
other keys are not looked at. -/
theorem Configuration.ofValue_schema {document : Value} (h : document.IsJson) :
    ((∃ c, Configuration.ofValue document = .ok c) ↔ document.IsConfiguration) ∧
    (∀ c, Configuration.ofValue document = .ok c →
      List.Forall₂ (fun v p => Pattern.ofValue v = .ok p)
        (document.get "calendars").items c.calendars ∧
      List.Forall₂ (fun v r => Rule.ofValue v = .ok r)
        ((document.get "urls").get "ignore").items c.ignore ∧
      (∀ kind : AccountKind, List.Forall₂
        (fun entry a => entry.1 = .text a.chosen ∧ Rule.listOfValue entry.2 = .ok a.rules)
        (((document.get "urls").get "account").get kind.name).entries (c.accounts kind)) ∧
      List.Forall₂ (fun v o => v.get "with" = .text o.chosen ∧
          Rule.listOfValue (if (v.get "if").isEmpty then .null else v.get "if") = .ok o.rules)
        ((document.get "urls").get "open").items c.openers) ∧
    Configuration.ofValue document.known = Configuration.ofValue document ∧
    (∀ v, Pattern.ofValue (v.only ["type", "pattern"]) = Pattern.ofValue v) ∧
    ∀ v, Choice.ofOpener (v.only ["with", "if"]) = Choice.ofOpener v := by
  refine ⟨Configuration.exists_ofValue_iff h, fun c hc => ?_, Configuration.ofValue_known document,
    Pattern.ofValue_only, Choice.ofOpener_only⟩
  obtain ⟨hcalendars, hignore, haccounts, hopeners⟩ := Configuration.ofValue_eq_ok hc
  refine ⟨forall₂_of_mapM_eq_ok hcalendars, forall₂_of_mapM_eq_ok hignore, fun kind => ?_, ?_⟩
  · have hjson := ((h.get "urls").get "account").get kind.name
    have hmade := (List.forall₂_and_left _ _).2
      ⟨fun entry hentry => hjson.key_of_mem_entries hentry, forall₂_of_mapM_eq_ok (haccounts kind)⟩
    refine hmade.imp ?_
    rintro ⟨key, rules⟩ a ⟨⟨name, rfl⟩, ha⟩
    obtain ⟨hchosen, hrules⟩ := Choice.ofAccount_eq_ok ha
    exact ⟨congrArg Value.text hchosen.symm, hrules⟩
  · exact (forall₂_of_mapM_eq_ok hopeners).imp fun _ _ ho => Choice.ofOpener_eq_ok ho

/-- A document with one command for every link, and a key that is not known beside it. -/
def commandDocument (command : Text) : Value :=
  .mapping [(.text "urls".toList, .mapping [(.text "open".toList,
    .list [.mapping [(.text "with".toList, .text command), (.text "note".toList, .int 1)]])])]

theorem isJson_commandDocument (command : Text) : (commandDocument command).IsJson := by
  have hopener : Value.IsJson
      (.mapping [(.text "with".toList, .text command), (.text "note".toList, .int 1)]) := by
    refine .mapping ?_ ?_
    · exact List.forall_mem_cons.2 ⟨⟨_, rfl⟩, List.forall_mem_singleton.2 ⟨_, rfl⟩⟩
    · exact List.forall_mem_cons.2 ⟨.text _, List.forall_mem_singleton.2 (.int 1)⟩
  refine .mapping (List.forall_mem_singleton.2 ⟨_, rfl⟩) (List.forall_mem_singleton.2 ?_)
  refine .mapping (List.forall_mem_singleton.2 ⟨_, rfl⟩) (List.forall_mem_singleton.2 ?_)
  exact .list (List.forall_mem_singleton.2 hopener)

/-- The place of the link has to stand in a command, and only once. -/
theorem Configuration.ofValue_schema_places :
    (commandDocument "open %s".toList).IsConfiguration ∧
      ¬(commandDocument "open".toList).IsConfiguration ∧
      ¬(commandDocument "open %s%s".toList).IsConfiguration ∧
      ∀ c, Configuration.ofValue (commandDocument "open %s".toList) = .ok c →
        c.openers.length = 1 := by
  have haccepted (command : Text) :
      (∃ c, Configuration.ofValue (commandDocument command) = .ok c) ↔
        (Configuration.ofValue (commandDocument command)).isOk = true := by
    cases Configuration.ofValue (commandDocument command) with
    | error fault => exact iff_of_false nofun Bool.false_ne_true
    | ok c => exact iff_of_true ⟨c, rfl⟩ rfl
  refine ⟨?_, ?_, ?_, fun c hc => ?_⟩
  · rw [← (Configuration.ofValue_schema (isJson_commandDocument _)).1, haccepted]
    decide +kernel
  · rw [← (Configuration.ofValue_schema (isJson_commandDocument _)).1, haccepted]
    decide +kernel
  · rw [← (Configuration.ofValue_schema (isJson_commandDocument _)).1, haccepted]
    decide +kernel
  · exact ((Configuration.ofValue_schema (isJson_commandDocument _)).2.1 c hc).2.2.2.length_eq.symm

end AgendaLinks
