import AgendaLinks.Proofs.Configuration.Causes

/-!
Conditions of commands. A condition that is null or a list of rules is read as it stands. One that counts
as absent, such as false or an empty text, is read like null although it is neither; every other condition
is refused. A command whose condition counts as absent is for every link of every event, so that the
commands behind it are never used.
-/

namespace AgendaLinks

open ConfigurationFault (placeholder about)

namespace Value

/-- What counts as absent and is neither null nor a list. -/
inductive Vacant : Value → Prop where
  | bool : Vacant (.bool false)
  | int : Vacant (.int 0)
  | float {d : Double} : d.isZero = true → Vacant (.float d)
  | text : Vacant (.text [])
  | bytes : Vacant (.bytes [])
  | mapping : Vacant (.mapping [])
  | set : Vacant (.set [])

/-- Neither null nor a list, and nothing that counts as absent. -/
structure Misshapen (v : Value) : Prop where
  ne_null : v ≠ .null
  ne_list : ∀ items, v ≠ .list items
  not_vacant : ¬v.Vacant

theorem Vacant.isEmpty_eq {v : Value} (h : v.Vacant) : v.isEmpty = true := by
  cases h with
  | float hzero => exact hzero
  | _ => rfl

theorem isEmpty_iff {v : Value} : v.isEmpty = true ↔ v = .null ∨ v = .list [] ∨ v.Vacant := by
  constructor
  · intro h
    cases v with
    | null => exact Or.inl rfl
    | list items =>
        cases List.isEmpty_iff.1 h
        exact Or.inr (Or.inl rfl)
    | bool b =>
        cases b with
        | false => exact Or.inr (Or.inr .bool)
        | true => cases h
    | int i =>
        cases eq_of_beq h
        exact Or.inr (Or.inr .int)
    | float d => exact Or.inr (Or.inr (.float h))
    | text t =>
        cases List.isEmpty_iff.1 h
        exact Or.inr (Or.inr .text)
    | bytes b =>
        cases List.isEmpty_iff.1 h
        exact Or.inr (Or.inr .bytes)
    | mapping entries =>
        cases List.isEmpty_iff.1 h
        exact Or.inr (Or.inr .mapping)
    | set items =>
        cases List.isEmpty_iff.1 h
        exact Or.inr (Or.inr .set)
    | _ => cases h
  · rintro (rfl | rfl | h)
    · rfl
    · rfl
    · exact h.isEmpty_eq

theorem Misshapen.isEmpty_eq {v : Value} (h : v.Misshapen) : v.isEmpty = false := by
  rw [Bool.eq_false_iff]
  intro hempty
  rcases isEmpty_iff.1 hempty with hnull | hlist | hvacant
  · exact h.ne_null hnull
  · exact h.ne_list [] hlist
  · exact h.not_vacant hvacant

theorem eq_list_of_items_eq_append {v x : Value} {before after : List Value}
    (h : v.items = before ++ x :: after) : v = .list (before ++ x :: after) := by
  have hne : v.items ≠ [] := by simp [h]
  cases v with
  | list items => exact congrArg Value.list h
  | _ => exact absurd rfl hne

theorem Misshapen.not_isRules {v : Value} (h : v.Misshapen) : ¬v.IsRules := by
  rintro (_ | _)
  · exact h.ne_null rfl
  · exact h.ne_list _ rfl

end Value

theorem Choice.condition_of_ofOpener {entry : Value} {c : Choice} (h : Choice.ofOpener entry = .ok c) :
    (entry.get "if").IsRules ∨ (entry.get "if").Vacant := by
  rcases (Choice.exists_ofOpener_iff.1 ⟨c, h⟩).condition with hempty | hrules
  · rcases Value.isEmpty_iff.1 hempty with hnull | hlist | hvacant
    · rw [hnull]
      exact Or.inl .null
    · rw [hlist]
      exact Or.inl (.list nofun)
    · exact Or.inr hvacant
  · exact Or.inl hrules

theorem Rule.listOfValue_of_misshapen {v : Value} (h : v.Misshapen) :
    Rule.listOfValue v = .error (about .noRules v) := by
  cases v with
  | null => exact absurd rfl h.ne_null
  | list items => exact absurd rfl (h.ne_list items)
  | _ => rfl

/-- An entry whose command is in order is refused for its condition. -/
theorem Choice.ofOpener_of_misshapen {entry : Value} {template : Text}
    (hwith : entry.get "with" = .text template)
    (honce : ∃! left, ∃ right, template = left ++ placeholder ++ right)
    (hcondition : (entry.get "if").Misshapen) :
    Choice.ofOpener entry = .error (about .noRules (entry.get "if")) := by
  have hcount := countOf_placeholder_eq_one_iff.2 honce
  cases entry with
  | mapping entries =>
      change Value.lookup "with".toList entries = .text template at hwith
      have hempty : (Value.lookup "if".toList entries).isEmpty = false := hcondition.isEmpty_eq
      simp only [Choice.ofOpener, entriesOf, bind, Except.bind, hwith, if_pos hcount, hempty]
      exact congrArg (Except.map (Choice.mk template)) (Rule.listOfValue_of_misshapen hcondition)
  | _ => cases hwith

/-- A condition that counts as absent is read as if there were none. -/
theorem Choice.ofOpener_of_vacant {entry : Value} (h : (entry.get "if").Vacant) :
    Choice.ofOpener entry = Choice.ofOpener (entry.only ["with"]) := by
  cases entry with
  | mapping entries =>
      have hempty : (Value.lookup "if".toList entries).isEmpty = true := h.isEmpty_eq
      simp only [Value.only, Choice.ofOpener, entriesOf, bind, Except.bind, hempty,
        Value.lookup_only (show "with" ∈ ["with"] by decide),
        Value.lookup_only_of_not_mem (show "if" ∉ ["with"] by decide)]
      rfl
  | _ => rfl

/-- A command whose condition counts as absent is for every link. -/
theorem Choice.anyApplies_of_vacant {entry : Value} {c : Choice} (h : Choice.ofOpener entry = .ok c)
    (hcondition : (entry.get "if").Vacant) (e : Event) (link : Option Text) :
    Rule.anyApplies c.rules e link = true :=
  (Choice.anyApplies_iff_of_opener h e link).2 (Or.inl hcondition.isEmpty_eq)

/-- Behind a choice that applies no other one is made. -/
theorem Choice.exists_first?_eq (before after : List Choice) {c : Choice} {e : Event}
    {link : Option Text} (h : Rule.anyApplies c.rules e link = true) :
    ∃ used ∈ before ++ [c], Choice.first? (before ++ c :: after) e link = some used.chosen := by
  have hsome : ((before ++ [c]).find? fun o => Rule.anyApplies o.rules e link).isSome = true := by
    rw [List.find?_isSome]
    exact ⟨c, List.mem_append_right _ (List.mem_singleton.2 rfl), h⟩
  obtain ⟨used, hused⟩ := Option.isSome_iff_exists.1 hsome
  refine ⟨used, List.mem_of_find?_eq_some hused, ?_⟩
  rw [Choice.first?, List.append_cons, List.find?_append, hused]
  rfl

/-- The commands are read last, so a fault among them is answered if all other parts fit. -/
theorem Configuration.ofValue_eq_error_of_openers {document : Value} {items : List Value}
    {fault : ConfigurationFault} (hfits : ∀ part ∈ Part.inOrder.dropLast, document.Fits part)
    (hopeners : (document.get "urls").get "open" = .list items)
    (hfault : items.mapM Choice.ofOpener = .error fault) :
    Configuration.ofValue document = .error fault := by
  have hwhole : entriesOf .whole document = .ok document.entries :=
    entriesOf_eq_ok_iff.2 ⟨hfits .whole (by decide), rfl⟩
  have hurls : entriesOf .urls (document.get "urls") = .ok (document.get "urls").entries :=
    entriesOf_eq_ok_iff.2 ⟨hfits .urls (by decide), rfl⟩
  have haccounts : entriesOf .accounts ((document.get "urls").get "account") =
      .ok ((document.get "urls").get "account").entries :=
    entriesOf_eq_ok_iff.2 ⟨hfits .accounts (by decide), rfl⟩
  obtain ⟨calendars, hcalendars⟩ := (@exists_items_iff _ _ .calendars _ _
    fun _ => Pattern.exists_ofValue_iff).2 (hfits .calendars (by decide))
  obtain ⟨ignore, hignore⟩ := (@exists_items_iff _ _ .ignore _ _
    fun _ => Rule.exists_ofValue_iff).2 (hfits .ignore (by decide))
  obtain ⟨google, hgoogle⟩ := (@exists_entries_iff _ _ (.accountsOf "google") _ _
    fun _ => Choice.exists_ofAccount_iff_accountFits).2 (hfits (.accountsOf "google") (by decide))
  obtain ⟨zoom, hzoom⟩ := (@exists_entries_iff _ _ (.accountsOf "zoom") _ _
    fun _ => Choice.exists_ofAccount_iff_accountFits).2 (hfits (.accountsOf "zoom") (by decide))
  rw [Configuration.ofValue]
  refine (bind_of_eq_ok hwhole _).trans ?_
  refine (bind_of_eq_ok hurls _).trans ?_
  refine (bind_of_eq_ok haccounts _).trans ?_
  rw [← bind_assoc]
  refine (bind_of_eq_ok hcalendars _).trans ?_
  rw [← bind_assoc]
  refine (bind_of_eq_ok hignore _).trans ?_
  refine (bind_of_eq_ok hgoogle _).trans ?_
  refine (bind_of_eq_ok hzoom _).trans ?_
  rw [← bind_assoc]
  refine bind_of_eq_error ?_ _
  have hlist : itemsOf .openers ((document.get "urls").get "open") = .ok items := by
    rw [hopeners]
    rfl
  exact (bind_of_eq_ok hlist _).trans hfault

/-- A document that is not accepted is rejected, unless something in it cannot be written or is no modest
regular expression. -/
theorem Configuration.rejection_or_troubled {document : Value} {fault : ConfigurationFault}
    (h : Configuration.ofValue document = .error fault) :
    fault.standing = .rejection ∨ document.Troubled := by
  by_cases hstanding : fault.standing = .rejection
  · exact Or.inl hstanding
  · have hescapes := (Configuration.escapes_ofValue_iff document).1 ⟨fault, h, hstanding⟩
    obtain ⟨part, -, hpart⟩ := hescapes.exists_bad
    exact Or.inr hpart.troubled

theorem Configuration.conditions_of_ofValue {document : Value} {c : Configuration}
    (h : Configuration.ofValue document = .ok c) :
    ∀ entry ∈ ((document.get "urls").get "open").items,
      (entry.get "if").IsRules ∨ (entry.get "if").Vacant := by
  intro entry hentry
  obtain ⟨-, -, -, hopeners⟩ := Configuration.ofValue_eq_ok h
  obtain ⟨opener, -, hopener⟩ :=
    exists_of_mem_left_of_forall₂ (forall₂_of_mapM_eq_ok hopeners) hentry
  exact Choice.condition_of_ofOpener hopener

/-- An accepted document has no entry with a condition of another shape. -/
theorem Configuration.refuses_misshapen {document entry : Value} {before after : List Value}
    (hentries : ((document.get "urls").get "open").items = before ++ entry :: after)
    (hcondition : (entry.get "if").Misshapen) :
    ∃ fault, Configuration.ofValue document = .error fault ∧
      (fault.standing = .rejection ∨ document.Troubled) := by
  cases hdocument : Configuration.ofValue document with
  | ok c =>
      have hentry : entry ∈ ((document.get "urls").get "open").items := by
        rw [hentries]
        exact List.mem_append_right before List.mem_cons_self
      rcases Configuration.conditions_of_ofValue hdocument entry hentry with hrules | hvacant
      · exact absurd hrules hcondition.not_isRules
      · exact absurd hvacant hcondition.not_vacant
  | error fault => exact ⟨fault, rfl, Configuration.rejection_or_troubled hdocument⟩

/-- The first thing that is wrong is what the message is about. -/
theorem Configuration.ofValue_of_misshapen {document entry : Value} {before after : List Value}
    (hentries : ((document.get "urls").get "open").items = before ++ entry :: after)
    (hcondition : (entry.get "if").Misshapen) (hfits : ∀ part ∈ Part.inOrder.dropLast, document.Fits part)
    (hbefore : ∀ v ∈ before, v.IsOpener) (hcommand : ∃ template, entry.get "with" = .text template ∧
      ∃! left, ∃ right, template = left ++ placeholder ++ right) :
    Configuration.ofValue document = .error (about .noRules (entry.get "if")) := by
  obtain ⟨template, hwith, honce⟩ := hcommand
  refine Configuration.ofValue_eq_error_of_openers hfits (Value.eq_list_of_items_eq_append hentries) ?_
  refine mapM_append_eq_error (fun v hv => Choice.exists_ofOpener_iff.2 (hbefore v hv)) ?_
  exact Choice.ofOpener_of_misshapen hwith honce hcondition

/-- What opens a link stands in the document no later than an entry whose condition counts as absent. -/
theorem Configuration.exists_used_of_vacant {document : Value} {c : Configuration}
    (h : Configuration.ofValue document = .ok c) {before after : List Value} {entry : Value}
    (hentries : ((document.get "urls").get "open").items = before ++ entry :: after)
    (hcondition : (entry.get "if").Vacant) (fallback : Text) (e : Event) (link : Text) :
    ∃ used ∈ before ++ [entry],
      used.get "with" = .text (Shell.template c.openers fallback e link).value := by
  obtain ⟨-, -, -, hopeners⟩ := Configuration.ofValue_eq_ok h
  rw [hentries] at hopeners
  obtain ⟨first, opener, rest, hchoices, hfirst, hopener⟩ :=
    exists_append_of_forall₂ (forall₂_of_mapM_eq_ok hopeners).flip
  have hread : List.Forall₂ (fun o v => Choice.ofOpener v = .ok o) (first ++ [opener])
      (before ++ [entry]) := List.rel_append hfirst (.cons hopener .nil)
  have happlies := Choice.anyApplies_of_vacant hopener hcondition e (some link)
  obtain ⟨choice, hchoice, hused⟩ := Choice.exists_first?_eq first rest happlies
  obtain ⟨used, hmem, hmade⟩ := exists_of_mem_left_of_forall₂ hread hchoice
  refine ⟨used, hmem, ?_⟩
  rw [Shell.value_template, hchoices, hused, (Choice.ofOpener_eq_ok hmade).1]
  rfl

/-- Under the condition of a command of an accepted document stands null or nothing, a list of rules, or
what counts as absent: false, zero, and whatever else is empty. A condition of another shape is refused,
wherever its entry stands, and it is what the message is about if nothing before it is wrong. A condition
that counts as absent is read as if there were none: it holds for every link of every event, so no command
behind it is ever used. -/
theorem Configuration.ofValue_conditions (document : Value) :
    (∀ c, Configuration.ofValue document = .ok c →
      ∀ entry ∈ ((document.get "urls").get "open").items,
        (entry.get "if").IsRules ∨ (entry.get "if").Vacant) ∧
    (∀ (before : List Value) (entry : Value) (after : List Value),
      ((document.get "urls").get "open").items = before ++ entry :: after →
      (entry.get "if").Misshapen →
      (∃ fault, Configuration.ofValue document = .error fault ∧
        (fault.standing = .rejection ∨ document.Troubled)) ∧
      ((∀ part ∈ Part.inOrder.dropLast, document.Fits part) → (∀ v ∈ before, v.IsOpener) →
        (∃ template, entry.get "with" = .text template ∧
          ∃! left, ∃ right, template = left ++ placeholder ++ right) →
        Configuration.ofValue document = .error (about .noRules (entry.get "if")))) ∧
    (∀ entry : Value, (entry.get "if").Vacant →
      Choice.ofOpener entry = Choice.ofOpener (entry.only ["with"])) ∧
    ∀ c, Configuration.ofValue document = .ok c →
      ∀ (before : List Value) (entry : Value) (after : List Value),
        ((document.get "urls").get "open").items = before ++ entry :: after →
        (entry.get "if").Vacant → ∀ (fallback : Text) (e : Event) (link : Text),
        ∃ used ∈ before ++ [entry],
          used.get "with" = .text (Shell.template c.openers fallback e link).value := by
  refine ⟨fun c hc => Configuration.conditions_of_ofValue hc, fun before entry after hentries hcondition =>
    ⟨Configuration.refuses_misshapen hentries hcondition, fun hfits hbefore hcommand =>
      Configuration.ofValue_of_misshapen hentries hcondition hfits hbefore hcommand⟩,
    fun entry hentry => Choice.ofOpener_of_vacant hentry, ?_⟩
  intro c hc before entry after hentries hcondition fallback e link
  exact Configuration.exists_used_of_vacant hc hentries hcondition fallback e link

/-- An entry with a command and its condition. -/
def openerEntry (command : String) (condition : Value) : Value :=
  .mapping [(.text "with".toList, .text command.toList), (.text "if".toList, condition)]

/-- A document with some commands. -/
def openersDocument (entries : List Value) : Value :=
  .mapping [(.text "urls".toList, .mapping [(.text "open".toList, .list entries)])]

/-- An empty text as the condition of the second command, and true in its place. -/
theorem Configuration.ofValue_conditions_second_command :
    (∃ c, Configuration.ofValue (openersDocument [openerEntry "safari %s" .null,
          openerEntry "firefox %s" (.text []), openerEntry "chrome %s" .null]) = .ok c ∧
        (∀ entry ∈ [openerEntry "safari %s" .null, openerEntry "firefox %s" (.text []),
            openerEntry "chrome %s" .null],
          (entry.get "if").IsRules ∨ (entry.get "if").Vacant) ∧
        ∀ (fallback : Text) (e : Event) (link : Text),
          ∃ used ∈ [openerEntry "safari %s" .null] ++ [openerEntry "firefox %s" (.text [])],
            used.get "with" = .text (Shell.template c.openers fallback e link).value) ∧
      Choice.ofOpener (openerEntry "firefox %s" (.text [])) =
        Choice.ofOpener (.mapping [(.text "with".toList, .text "firefox %s".toList)]) ∧
      Configuration.ofValue (openersDocument [openerEntry "safari %s" .null,
        openerEntry "firefox %s" (.bool true), openerEntry "chrome %s" .null]) =
          .error (.noRules (.bool true)) := by
  have haccepted : ∃ c, Configuration.ofValue (openersDocument [openerEntry "safari %s" .null,
      openerEntry "firefox %s" (.text []), openerEntry "chrome %s" .null]) = .ok c :=
    exists_of_isOk (by decide +kernel)
  obtain ⟨c, hc⟩ := haccepted
  obtain ⟨hshapes, -, hread, hused⟩ := Configuration.ofValue_conditions (openersDocument
    [openerEntry "safari %s" .null, openerEntry "firefox %s" (.text []), openerEntry "chrome %s" .null])
  refine ⟨⟨c, hc, hshapes c hc, hused c hc [_] _ [_] rfl .text⟩, hread _ .text, ?_⟩
  obtain ⟨-, hrefused, -⟩ := Configuration.ofValue_conditions (openersDocument
    [openerEntry "safari %s" .null, openerEntry "firefox %s" (.bool true), openerEntry "chrome %s" .null])
  have hmisshapen : (Value.bool true).Misshapen := ⟨nofun, nofun, nofun⟩
  refine (hrefused [_] _ [_] rfl hmisshapen).2 ?_ ?_ ?_
  · simp only [Part.inOrder, List.dropLast, List.mem_cons, List.not_mem_nil, or_false, forall_eq_or_imp,
      forall_eq]
    exact ⟨.mapping fun _ _ => trivial, .mapping fun _ _ => trivial, .null, .null, .null, .null, .null⟩
  · refine List.forall_mem_singleton.2 (Choice.exists_ofOpener_iff.1 (exists_of_isOk ?_))
    decide +kernel
  · exact ⟨_, rfl, countOf_placeholder_eq_one_iff.1 (by decide +kernel)⟩

/-- False is neither null nor a list, and yet the document with it as a condition is accepted, and the
command behind it is never used. -/
theorem Configuration.ofValue_false_condition :
    ∃ c, Configuration.ofValue (openersDocument [openerEntry "firefox %s" (.bool false),
          openerEntry "chrome %s" .null]) = .ok c ∧
      (∃ entry ∈ [openerEntry "firefox %s" (.bool false), openerEntry "chrome %s" .null],
        entry.get "if" ≠ .null ∧ ∀ items, entry.get "if" ≠ .list items) ∧
      ∀ (fallback : Text) (e : Event) (link : Text),
        (Shell.template c.openers fallback e link).value = "firefox %s".toList := by
  have haccepted : ∃ c, Configuration.ofValue (openersDocument [openerEntry "firefox %s" (.bool false),
      openerEntry "chrome %s" .null]) = .ok c := exists_of_isOk (by decide +kernel)
  obtain ⟨c, hc⟩ := haccepted
  refine ⟨c, hc, ⟨_, List.mem_cons_self, nofun, nofun⟩, fun fallback e link => ?_⟩
  have hentries : (((openersDocument [openerEntry "firefox %s" (.bool false),
      openerEntry "chrome %s" .null]).get "urls").get "open").items =
      [] ++ openerEntry "firefox %s" (.bool false) :: [openerEntry "chrome %s" .null] := rfl
  obtain ⟨used, hused, hwith⟩ :=
    Configuration.exists_used_of_vacant hc hentries .bool fallback e link
  rw [List.nil_append, List.mem_singleton] at hused
  rw [hused] at hwith
  exact (Value.text.inj hwith).symm

end AgendaLinks
