import AgendaLinks.Link.Extract
import AgendaLinks.Proofs.Fallible
import AgendaLinks.Proofs.Text.Cuts
import Mathlib.Data.List.Infix
import Mathlib.Data.List.TakeWhile

/-!
Links and words. The characters that may stand in a link come in runs, with delimiters between them. A
link begins at the first place of a run where a link can start, and it ends with the run, so to look for
links from left to right is to look at each run by itself.
-/

namespace AgendaLinks.Link

open Text

/-- What a link starts with. -/
def linkStarts : List Text := ["http://".toList, "https://".toList]

/-- Whether a text starts as a link does and goes on. -/
def beginsLink (t : Text) : Bool :=
  linkStarts.any fun start => start.isPrefixOf t && start.length < t.length

/-- A text that is a link from its first character to its last. -/
def IsLink (t : Text) : Prop := beginsLink t = true ∧ ∀ c ∈ t, isLinkChar c = true

instance (t : Text) : Decidable (IsLink t) := inferInstanceAs (Decidable (_ ∧ _))

theorem isLinkChar_of_mem_linkStarts : ∀ start ∈ linkStarts, ∀ c ∈ start, isLinkChar c = true := by
  decide

theorem afterStart?_eq_some_iff {t rest : Text} :
    afterStart? t = some rest ↔ ∃ start ∈ linkStarts, t = start ++ rest := by
  rw [afterStart?, Option.or_eq_some_iff, after?_eq_some_iff, after?_eq_some_iff]
  constructor
  · rintro (rfl | ⟨-, rfl⟩)
    · exact ⟨_, List.mem_cons_of_mem _ List.mem_cons_self, rfl⟩
    · exact ⟨_, List.mem_cons_self, rfl⟩
  · rintro ⟨start, hstart, rfl⟩
    rcases List.mem_cons.1 hstart with rfl | hsecure
    · exact Or.inr ⟨rfl, rfl⟩
    · rw [List.mem_singleton] at hsecure
      exact Or.inl (congrArg (· ++ rest) hsecure)

theorem beginsLink_iff {t : Text} :
    beginsLink t = true ↔ ∃ rest, rest ≠ [] ∧ afterStart? t = some rest := by
  rw [beginsLink, List.any_eq_true]
  constructor
  · rintro ⟨start, hstart, h⟩
    rw [Bool.and_eq_true, List.isPrefixOf_iff_prefix, decide_eq_true_eq] at h
    obtain ⟨⟨rest, rfl⟩, hlength⟩ := h
    refine ⟨rest, ?_, afterStart?_eq_some_iff.2 ⟨start, hstart, rfl⟩⟩
    rintro rfl
    rw [List.append_nil] at hlength
    omega
  · rintro ⟨rest, hrest, h⟩
    obtain ⟨start, hstart, rfl⟩ := afterStart?_eq_some_iff.1 h
    refine ⟨start, hstart, ?_⟩
    rw [Bool.and_eq_true, List.isPrefixOf_iff_prefix, decide_eq_true_eq, List.length_append]
    have := List.length_pos_iff.2 hrest
    exact ⟨List.prefix_append _ _, by omega⟩

/-- A link is told by the run of characters at the start of the text. -/
theorem linkAt_eq (t : Text) : linkAt t =
    if beginsLink (t.takeWhile isLinkChar) = true then (t.takeWhile isLinkChar).length else 0 := by
  rw [linkAt]
  cases hstart : afterStart? t with
  | none =>
      rw [if_neg]
      intro hbegins
      obtain ⟨rest, -, hrest⟩ := beginsLink_iff.1 hbegins
      obtain ⟨start, hmem, heq⟩ := afterStart?_eq_some_iff.1 hrest
      have ht : afterStart? t = some (rest ++ t.dropWhile isLinkChar) := by
        rw [afterStart?_eq_some_iff]
        refine ⟨start, hmem, ?_⟩
        rw [← List.append_assoc, ← heq, List.takeWhile_append_dropWhile]
      rw [hstart] at ht
      cases ht
  | some rest =>
      obtain ⟨start, hmem, rfl⟩ := afterStart?_eq_some_iff.1 hstart
      have hrun : (start ++ rest).takeWhile isLinkChar = start ++ rest.takeWhile isLinkChar :=
        List.takeWhile_append_of_pos (isLinkChar_of_mem_linkStarts start hmem)
      have hafter : afterStart? (start ++ rest.takeWhile isLinkChar) =
          some (rest.takeWhile isLinkChar) := afterStart?_eq_some_iff.2 ⟨start, hmem, rfl⟩
      have hbegins : beginsLink (start ++ rest.takeWhile isLinkChar) = true ↔
          (rest.takeWhile isLinkChar).length ≠ 0 := by
        rw [beginsLink_iff, hafter, ne_eq, List.length_eq_zero_iff]
        exact ⟨fun ⟨_, hne, heq⟩ => Option.some.inj heq ▸ hne, fun hne => ⟨_, hne, rfl⟩⟩
      simp only [hrun, hbegins, List.length_append]
      split_ifs <;> omega

/-- The longest runs of characters that may stand in a link. -/
def runs (t : Text) : List Text := (t.splitOnP (!isLinkChar ·)).filter (· ≠ [])

/-- A run from the first place on where a link starts in it. -/
def linkOf? (run : Text) : Option Text := run.tails.find? beginsLink

/-- Every text is a run, or a run with a delimiter and another text behind it. -/
@[elab_as_elim]
theorem run_induction {P : Text → Prop}
    (last : ∀ run : Text, (∀ c ∈ run, isLinkChar c = true) → P run)
    (more : ∀ (run : Text) (d : Char) (t : Text), (∀ c ∈ run, isLinkChar c = true) →
      isLinkChar d = false → P t → P (run ++ d :: t)) (t : Text) : P t := by
  -- what has been read of a run is carried along until the delimiter behind it
  suffices h : ∀ run : Text, (∀ c ∈ run, isLinkChar c = true) → P (run ++ t) from h [] nofun
  induction t with
  | nil =>
      intro run hrun
      rw [List.append_nil]
      exact last run hrun
  | cons c t ih =>
      intro run hrun
      cases hc : isLinkChar c with
      | true =>
          rw [List.append_cons]
          apply ih
          intro d hd
          rcases List.mem_append.1 hd with hd | hd
          · exact hrun d hd
          · rw [List.mem_singleton.1 hd, hc]
      | false => exact more run c t hrun hc (ih [] nofun)

theorem runs_append_cons {d : Char} (hd : isLinkChar d = false) (s t : Text) :
    runs (s ++ d :: t) = runs s ++ runs t := by
  rw [runs, List.splitOnP_append_cons s t (by rw [hd]; rfl), List.filter_append]
  rfl

theorem runs_of_forall {run : Text} (h : ∀ c ∈ run, isLinkChar c = true) :
    runs run = if run = [] then [] else [run] := by
  rw [runs, List.splitOnP_eq_singleton]
  · cases run with
    | nil => rfl
    | cons c run => rfl
  · intro c hc
    rw [h c hc]
    rfl

theorem isLinkChar_of_mem_runs {t run : Text} (h : run ∈ runs t) :
    ∀ c ∈ run, isLinkChar c = true := by
  induction t using run_induction with
  | last t ht =>
      rw [runs_of_forall ht] at h
      split_ifs at h
      · cases h
      · rwa [List.mem_singleton.1 h]
  | more start d t hstart hd ih =>
      rw [runs_append_cons hd, runs_of_forall hstart] at h
      split_ifs at h
      · exact ih h
      · rcases List.mem_cons.1 h with rfl | h
        · exact hstart
        · exact ih h

theorem linkOf?_cons (c : Char) (run : Text) : linkOf? (c :: run) =
    if beginsLink (c :: run) = true then some (c :: run) else linkOf? run := by
  rw [linkOf?, List.tails, List.find?_cons]
  split <;> rename_i hbegins
  · rw [if_pos hbegins]
  · rw [if_neg (by rw [hbegins]; decide)]
    rfl

theorem filterMap_runs {run : Text} (h : ∀ c ∈ run, isLinkChar c = true) :
    (runs run).filterMap linkOf? = (linkOf? run).toList := by
  rw [runs_of_forall h]
  cases run with
  | nil => rfl
  | cons c run =>
      rw [if_neg (List.cons_ne_nil c run), List.filterMap_cons, List.filterMap_nil]
      cases linkOf? (c :: run) with
      | none => rfl
      | some link => rfl

/-- What is found first is the link of the first run. -/
theorem find_run {run rest : Text} (hrun : ∀ c ∈ run, isLinkChar c = true)
    (hrest : ∀ c ∈ rest.head?, isLinkChar c = false) :
    find (run ++ rest) = (linkOf? run).toList ++ find rest := by
  induction run with
  | nil => rfl
  | cons c run ih =>
      have hspan := span_append hrun hrest
      rw [List.span_eq_takeWhile_dropWhile, Prod.mk.injEq] at hspan
      have hwidth : linkAt (c :: (run ++ rest)) =
          if beginsLink (c :: run) = true then (c :: run).length else 0 := by
        rw [linkAt_eq, ← List.cons_append, hspan.1]
      rw [List.cons_append, find, hwidth, linkOf?_cons]
      by_cases hbegins : beginsLink (c :: run) = true
      · simp only [if_pos hbegins]
        rw [if_neg (show (c :: run).length ≠ 0 from Nat.succ_ne_zero _), ← List.cons_append,
          List.take_left, List.drop_left]
        rfl
      · simp only [if_neg hbegins, if_true]
        exact ih fun d hd => hrun d (List.mem_cons_of_mem c hd)

theorem find_cons {d : Char} (hd : isLinkChar d = false) (t : Text) : find (d :: t) = find t := by
  rw [find, linkAt_eq, List.takeWhile_cons_of_neg (by rw [hd]; decide)]
  rfl

/-- To look for links from left to right is to look at each run by itself. -/
theorem find_eq (t : Text) : find t = (runs t).filterMap linkOf? := by
  induction t using run_induction with
  | last run hrun =>
      have hfind : find (run ++ []) = (linkOf? run).toList ++ find [] := find_run hrun nofun
      rw [find, List.append_nil, List.append_nil] at hfind
      rw [hfind, filterMap_runs hrun]
  | more run d t hrun hd ih =>
      have hhead : ∀ c ∈ (d :: t).head?, isLinkChar c = false := by
        intro c hc
        rwa [← Option.some.inj hc]
      calc find (run ++ d :: t)
        _ = (linkOf? run).toList ++ find (d :: t) := find_run hrun hhead
        _ = (runs run).filterMap linkOf? ++ (runs t).filterMap linkOf? := by
            rw [find_cons hd, ih, filterMap_runs hrun]
        _ = (runs (run ++ d :: t)).filterMap linkOf? := by
            rw [runs_append_cons hd, List.filterMap_append]

/-- No link goes past a delimiter. -/
theorem find_append_cons {d : Char} (hd : isLinkChar d = false) (s t : Text) :
    find (s ++ d :: t) = find s ++ find t := by
  rw [find_eq, find_eq, find_eq, runs_append_cons hd, List.filterMap_append]

theorem find_of_isLink {t : Text} (h : IsLink t) : find t = [t] := by
  rw [find_eq, filterMap_runs h.2]
  cases t with
  | nil => cases h.1
  | cons c t =>
      rw [linkOf?_cons, if_pos h.1]
      rfl

/-- What can be found is a link. -/
theorem exists_mem_find_iff {link : Text} : (∃ t, link ∈ find t) ↔ IsLink link := by
  constructor
  · rintro ⟨t, h⟩
    rw [find_eq, List.mem_filterMap] at h
    obtain ⟨run, hrun, hlink⟩ := h
    refine ⟨List.find?_some hlink, fun c hc => ?_⟩
    have hsuffix : link <:+ run := (List.mem_tails _ _).1 (List.mem_of_find?_eq_some hlink)
    exact isLinkChar_of_mem_runs hrun c (hsuffix.mem hc)
  · intro h
    refine ⟨link, ?_⟩
    rw [find_of_isLink h]
    exact List.mem_cons_self

/-- The links of an event without tags are those of the runs in its texts, one for each run in which a
link starts. -/
theorem ofEvent_eq_words (e : Event) (h : ∀ t ∈ textsOf e, hasTag t = false) :
    ofEvent e = .ok ((e.url.toList ++ e.location.toList ++ e.notes.toList).flatMap
      fun t => (runs t).filterMap linkOf?) := by
  have hfound : ∀ t ∈ textsOf e, findIn t = .ok ((runs t).filterMap linkOf?) := by
    intro t ht
    rw [findIn, h t ht, if_neg Bool.false_ne_true, find_eq]
  rw [ofEvent, mapM_eq_ok hfound, Except.map, textsOf, List.flatMap_def]

/-- An event with several starts in one run, delimiters of each kind, starts that nothing follows, and a
link that stands in it twice. -/
def glued : Event where
  title := "Planning".toList
  calendar := "Work".toList
  url := some "seehttps://a.x/?u=http://b.x#c".toList
  location := some "<http://>http://m.x\"https://m.x'hhttp://m.x".toList
  notes := some "https:// x\u2003https://m.x, a<b https://\thttp://https://".toList

theorem ofEvent_glued : (∀ t ∈ textsOf glued, hasTag t = false) ∧
    ofEvent glued = .ok ["https://a.x/?u=http://b.x#c".toList, "http://m.x".toList,
      "https://m.x".toList, "http://m.x".toList, "https://m.x,".toList,
      "http://https://".toList] := by
  have htags : ∀ t ∈ textsOf glued, hasTag t = false := by
    decide
  refine ⟨htags, (ofEvent_eq_words glued htags).trans (congrArg Except.ok ?_)⟩
  decide

end AgendaLinks.Link
