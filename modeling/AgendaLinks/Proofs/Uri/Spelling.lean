import AgendaLinks.Proofs.Text.Cuts
import AgendaLinks.Uri.Basic
import Mathlib.Data.List.TakeWhile

/-!
Links written out. In the text of a link its parts stand one after the other, each told from the next one
by a mark that it does not hold itself. Such a text has these parts if its authority is sound, and what is
written behind an authority can always be taken apart in this way.
-/

namespace AgendaLinks.Uri

open Text

/-- The schemes of web links and of links that an application opens. -/
def schemes : List Text := ["http".toList, "https".toList, "zoommtg".toList]

theorem isPassedOver_eq_false {p : Char → Bool} (hp : ∀ d ∈ ['\t', '\r', '\n'], p d = false)
    {c : Char} (h : p c = true) : isPassedOver c = false := by
  rw [isPassedOver, Bool.or_eq_false_iff, Bool.or_eq_false_iff]
  refine ⟨⟨decide_eq_false ?_, decide_eq_false ?_⟩, decide_eq_false ?_⟩
  all_goals
    rintro rfl
    rw [hp _ (by simp)] at h
    cases h

theorem endsAuthority_eq_false {p : Char → Bool} (hp : ∀ d ∈ ['/', '?', '#'], p d = false)
    {c : Char} (h : p c = true) : endsAuthority c = false := by
  rw [endsAuthority, Bool.or_eq_false_iff, Bool.or_eq_false_iff]
  refine ⟨⟨decide_eq_false ?_, decide_eq_false ?_⟩, decide_eq_false ?_⟩
  all_goals
    rintro rfl
    rw [hp _ (by simp)] at h
    cases h

/-- A part behind its mark; without the mark there is no part. -/
def marked (mark : Char) (part : Option Text) : Text := part.elim [] (mark :: ·)

theorem append_marked (mark : Char) (t : Text) : (cut mark t).1 ++ marked mark (cut mark t).2 = t := by
  rcases cut_cases mark t with ⟨-, hcut⟩ | ⟨left, right, -, rfl, hcut⟩
  · rw [hcut, marked, Option.elim_none, List.append_nil]
  · rw [hcut, marked, Option.elim_some]

theorem cut_append_marked {mark : Char} {t : Text} (h : mark ∉ t) (part : Option Text) :
    cut mark (t ++ marked mark part) = (t, part) := by
  cases part with
  | none => rw [marked, Option.elim_none, List.append_nil, cut_of_not_mem h]
  | some part => rw [marked, Option.elim_some, cut_append h]

theorem mem_marked {mark c : Char} {part : Option Text} (hc : c ∈ marked mark part) :
    c = mark ∨ c ∈ part.getD [] := by
  cases part with
  | none => cases hc
  | some part => exact List.mem_cons.1 hc

theorem eq_of_mem_head?_marked {mark c : Char} {part : Option Text}
    (hc : c ∈ (marked mark part).head?) : c = mark := by
  cases part with
  | none => cases hc
  | some part =>
      cases hc
      rfl

/-- The parts of a link with a scheme, an authority and what follows the authority. -/
def ofTail (scheme authority tail : Text) : Uri :=
  { scheme
    authority
    path := (cut '?' (cut '#' tail).1).1
    query := (cut '?' (cut '#' tail).1).2.getD []
    fragment := (cut '#' tail).2.getD [] }

/-- The parts of a text, whatever its authority is. -/
def partsOf (t : Text) : Uri :=
  let (scheme, t) := splitScheme ((t.dropWhile isLeading).filter (!isPassedOver ·))
  let (authority, t) := splitAuthority t
  ofTail scheme authority t

/-- A text has its parts unless its authority is refused. -/
theorem ofText_eq (t : Text) : ofText t = (do
    checkBrackets (partsOf t).authority
    checkDisguises (partsOf t).authority
    return partsOf t) := rfl

theorem ofText_eq_ok_iff {t : Text} {u : Uri} : ofText t = .ok u ↔
    checkBrackets (partsOf t).authority = .ok () ∧ checkDisguises (partsOf t).authority = .ok () ∧
      partsOf t = u := by
  rw [ofText_eq]
  cases checkBrackets (partsOf t).authority with
  | error fault => exact iff_of_false nofun nofun
  | ok =>
      cases checkDisguises (partsOf t).authority with
      | error fault => exact iff_of_false nofun nofun
      | ok => exact ⟨fun h => ⟨rfl, rfl, Except.ok.inj h⟩, fun h => congrArg Except.ok h.2.2⟩

theorem mem_splitScheme {t : Text} {c : Char} (hc : c ∈ (splitScheme t).2) : c ∈ t := by
  rw [splitScheme] at hc
  split at hc
  · rename_i name rest hcut
    split_ifs at hc
    · rw [eq_append_of_cut hcut]
      exact List.mem_append_right _ (List.mem_cons_of_mem _ hc)
    · exact hc
  · exact hc

theorem mem_splitAuthority {t : Text} {c : Char} :
    (c ∈ (splitAuthority t).1 → c ∈ t ∧ endsAuthority c = false) ∧
      (c ∈ (splitAuthority t).2 → c ∈ t) := by
  rw [splitAuthority]
  cases hafter : after? ['/', '/'] t with
  | none => exact ⟨nofun, id⟩
  | some rest =>
      rw [after?_eq_some_iff] at hafter
      simp only [List.span_eq_takeWhile_dropWhile]
      refine ⟨fun hc => ⟨?_, by simpa using List.mem_takeWhile_imp hc⟩, fun hc => ?_⟩
      · rw [hafter]
        exact List.mem_append_right _ (List.takeWhile_prefix _ |>.mem hc)
      · rw [hafter]
        exact List.mem_append_right _ (List.dropWhile_suffix _ |>.mem hc)

/-- Whatever a text is, no character that is passed over stands in its authority or in its query, and none
that ends these parts. -/
theorem chars_partsOf (t : Text) :
    (∀ c ∈ (partsOf t).authority, endsAuthority c = false ∧ isPassedOver c = false) ∧
      ∀ c ∈ (partsOf t).query, c ≠ '#' ∧ isPassedOver c = false := by
  have hclean : ∀ c ∈ (t.dropWhile isLeading).filter (!isPassedOver ·), isPassedOver c = false := by
    intro c hc
    simpa using List.of_mem_filter hc
  constructor
  · intro c hc
    obtain ⟨hmem, hends⟩ := mem_splitAuthority.1 hc
    exact ⟨hends, hclean c (mem_splitScheme hmem)⟩
  · intro c hc
    obtain ⟨hmem, hne⟩ := mem_fst_cut (mem_getD_cut hc)
    exact ⟨hne, hclean c (mem_splitScheme (mem_splitAuthority.2 hmem))⟩

/-- A way to write the parts of a link one after the other. An empty query or fragment may be written as a
mark that nothing follows, or be left out. -/
structure Spelling (u : Uri) where
  query : Option Text
  fragment : Option Text
  query_eq : query.getD [] = u.query
  fragment_eq : fragment.getD [] = u.fragment
  scheme_mem : u.scheme ∈ schemes
  undelimited : ∀ c ∈ u.authority, endsAuthority c = false
  rooted : ∀ c ∈ u.path.head?, c = '/'
  path_open : ∀ c ∈ u.path, c ≠ '?' ∧ c ≠ '#'
  query_open : '#' ∉ u.query
  clean : ∀ c ∈ u.authority ++ u.path ++ u.query ++ u.fragment, isPassedOver c = false

namespace Spelling

variable {u : Uri} (s : Spelling u)

/-- What stands behind the authority. -/
def tail : Text := u.path ++ marked '?' s.query ++ marked '#' s.fragment

def text : Text := u.scheme ++ ':' :: '/' :: '/' :: (u.authority ++ s.tail)

theorem mem_tail {c : Char} (hc : c ∈ s.tail) :
    c ∈ u.path ∨ c = '?' ∨ c ∈ u.query ∨ c = '#' ∨ c ∈ u.fragment := by
  rw [tail, List.mem_append, List.mem_append, or_assoc] at hc
  rcases hc with hc | hc | hc
  · exact Or.inl hc
  · have hquery := mem_marked hc
    rw [s.query_eq] at hquery
    exact Or.inr (hquery.imp_right Or.inl)
  · have hfragment := mem_marked hc
    rw [s.fragment_eq] at hfragment
    exact Or.inr (Or.inr (Or.inr hfragment))

theorem clean_of_mem_tail {c : Char} (hc : c ∈ s.tail) : isPassedOver c = false := by
  rcases s.mem_tail hc with hc | rfl | hc | rfl | hc
  · exact s.clean c (by simp [hc])
  · rfl
  · exact s.clean c (by simp [hc])
  · rfl
  · exact s.clean c (by simp [hc])

theorem endsAuthority_head {c : Char} (hc : c ∈ s.tail.head?) : endsAuthority c = true := by
  rw [tail, List.head?_append, List.head?_append, Option.mem_def] at hc
  rcases Option.or_eq_some_iff.1 hc with hc | ⟨-, hc⟩
  · rcases Option.or_eq_some_iff.1 hc with hc | ⟨-, hc⟩
    · rw [s.rooted c hc]
      rfl
    · rw [eq_of_mem_head?_marked hc]
      rfl
  · rw [eq_of_mem_head?_marked hc]
    rfl

theorem dropWhile_text : s.text.dropWhile isLeading = s.text := by
  have hschemes : ∀ t ∈ schemes, t.dropWhile isLeading = t ∧ t.isEmpty = false := by
    decide
  obtain ⟨hdrop, hempty⟩ := hschemes u.scheme s.scheme_mem
  rw [text, List.dropWhile_append, hdrop, hempty]
  rfl

theorem filter_text : s.text.filter (!isPassedOver ·) = s.text := by
  have hscheme : ∀ t ∈ schemes, ∀ c ∈ t, isPassedOver c = false := by
    decide
  rw [List.filter_eq_self]
  intro c hc
  rw [Bool.not_eq_true']
  rw [text, List.mem_append, List.mem_cons, List.mem_cons, List.mem_cons, List.mem_append] at hc
  rcases hc with hc | rfl | rfl | rfl | hc | hc
  · exact hscheme u.scheme s.scheme_mem c hc
  · rfl
  · rfl
  · rfl
  · exact s.clean c (by simp [hc])
  · exact s.clean_of_mem_tail hc

theorem splitScheme_text :
    splitScheme s.text = (u.scheme, '/' :: '/' :: (u.authority ++ s.tail)) := by
  have hschemes : ∀ t ∈ schemes, ':' ∉ t ∧
      (t.head?.any Char.isAlpha && t.all isSchemeChar) = true ∧ t.map Char.toLower = t := by
    decide
  obtain ⟨hcolon, hchars, hlower⟩ := hschemes u.scheme s.scheme_mem
  rw [splitScheme, text, cut_append hcolon]
  simp only [hchars, if_true, hlower]

theorem splitAuthority_text :
    splitAuthority ('/' :: '/' :: (u.authority ++ s.tail)) = (u.authority, s.tail) := by
  have hopen : ∀ c ∈ u.authority, (!endsAuthority c) = true := fun c hc => by
    rw [s.undelimited c hc]
    rfl
  have hafter : after? ['/', '/'] ('/' :: '/' :: (u.authority ++ s.tail)) =
      some (u.authority ++ s.tail) := rfl
  rw [splitAuthority, hafter]
  simp only
  apply span_append hopen
  intro c hc
  rw [s.endsAuthority_head hc]
  rfl

theorem not_mem_path_query : '#' ∉ u.path ++ marked '?' s.query := by
  intro hmem
  rcases List.mem_append.1 hmem with hpath | hquery
  · exact (s.path_open _ hpath).2 rfl
  · rcases mem_marked hquery with hmark | hquery
    · exact absurd hmark (by decide)
    · rw [s.query_eq] at hquery
      exact s.query_open hquery

theorem cut_tail : cut '#' s.tail = (u.path ++ marked '?' s.query, s.fragment) :=
  cut_append_marked s.not_mem_path_query s.fragment

/-- What is written has its parts. -/
theorem partsOf_text : partsOf s.text = u := by
  have hquery : cut '?' (u.path ++ marked '?' s.query) = (u.path, s.query) :=
    cut_append_marked (fun hmem => (s.path_open _ hmem).1 rfl) s.query
  rw [partsOf, s.dropWhile_text, s.filter_text, s.splitScheme_text]
  simp only [s.splitAuthority_text, ofTail, s.cut_tail, hquery, s.query_eq, s.fragment_eq]

/-- A link is read whenever one with the same authority is. -/
theorem ofText_text {t : Text} {v : Uri} (hv : ofText t = .ok v) (h : u.authority = v.authority) :
    ofText s.text = .ok u := by
  obtain ⟨hbrackets, hdisguises, rfl⟩ := ofText_eq_ok_iff.1 hv
  rw [ofText_eq_ok_iff, s.partsOf_text, h]
  exact ⟨hbrackets, hdisguises, rfl⟩

theorem eq_of_ofText_text {v : Uri} (h : ofText s.text = .ok v) : v = u := by
  rw [← (ofText_eq_ok_iff.1 h).2.2, s.partsOf_text]

/-- What stands before the query. -/
def front (u : Uri) : Text := u.scheme ++ ':' :: '/' :: '/' :: (u.authority ++ u.path)

theorem text_eq_front : s.text = front u ++ marked '?' s.query ++ marked '#' s.fragment := by
  simp only [text, tail, front, List.append_assoc, List.cons_append]

theorem not_mem_front (s : Spelling u) {d : Char} (hd : d = '?' ∨ d = '#') : d ∉ front u := by
  have hschemes : ∀ t ∈ schemes, '?' ∉ t ∧ '#' ∉ t := by
    decide
  obtain ⟨hquestion, hnumber⟩ := hschemes u.scheme s.scheme_mem
  have hauthority : d ∉ u.authority := by
    intro hmem
    have hopen := s.undelimited d hmem
    rcases hd with rfl | rfl
    · exact absurd hopen (by decide)
    · exact absurd hopen (by decide)
  have hpath : d ∉ u.path := fun hmem => hd.elim (s.path_open d hmem).1 (s.path_open d hmem).2
  rcases hd with rfl | rfl
  · simp [front, hquestion, hauthority, hpath]
  · simp [front, hnumber, hauthority, hpath]

theorem cut_text : cut '#' s.text = (front u ++ marked '?' s.query, s.fragment) := by
  have hnone : '#' ∉ front u ++ marked '?' s.query := by
    rw [List.mem_append, not_or]
    exact ⟨s.not_mem_front (Or.inr rfl), fun hmem =>
      s.not_mem_path_query (List.mem_append_right _ hmem)⟩
  rw [text_eq_front, cut_append_marked hnone]

/-- The link with another query in the place of its own. A mark that no fragment follows is left out. -/
def withQuery {query : Text} (h : ∀ c ∈ query, c ≠ '#' ∧ isPassedOver c = false) :
    Spelling { u with query := query } where
  query := some query
  fragment := if u.fragment = [] then none else some u.fragment
  query_eq := rfl
  fragment_eq := by
    split_ifs with hempty
    · exact hempty.symm
    · rfl
  scheme_mem := s.scheme_mem
  undelimited := s.undelimited
  rooted := s.rooted
  path_open := s.path_open
  query_open := fun hmem => (h _ hmem).1 rfl
  clean := by
    intro c hc
    rw [List.mem_append, List.mem_append] at hc
    rcases hc with (hc | hc) | hc
    · exact s.clean c (List.mem_append_left _ (List.mem_append_left _ hc))
    · exact (h c hc).2
    · exact s.clean c (List.mem_append_right _ hc)

end Spelling

section

variable {scheme authority t : Text} (hscheme : scheme ∈ schemes)
  (hundelimited : ∀ c ∈ authority, endsAuthority c = false)
  (hdelimited : ∀ c ∈ t.head?, endsAuthority c = true)
  (hclean : ∀ c ∈ authority ++ t, isPassedOver c = false)

/-- What follows the authority is a path, a query behind a question mark, and a fragment behind a number
sign. -/
def Spelling.ofTail : Spelling (Uri.ofTail scheme authority t) where
  query := (cut '?' (cut '#' t).1).2
  fragment := (cut '#' t).2
  query_eq := rfl
  fragment_eq := rfl
  scheme_mem := hscheme
  undelimited := hundelimited
  rooted := by
    intro c hc
    have hpath := List.mem_of_mem_head? hc
    have hfirst : (cut '?' (cut '#' t).1).1.head? = some c := hc
    have hhead : c ∈ t.head? := by
      rw [← append_marked '#' t, ← append_marked '?' (cut '#' t).1, List.head?_append,
        List.head?_append, hfirst]
      rfl
    have hends := hdelimited c hhead
    rw [endsAuthority, Bool.or_eq_true, Bool.or_eq_true, decide_eq_true_eq, decide_eq_true_eq,
      decide_eq_true_eq] at hends
    rcases hends with (hslash | hquestion) | hnumber
    · exact hslash
    · exact absurd hquestion (mem_fst_cut hpath).2
    · exact absurd hnumber (mem_fst_cut (mem_fst_cut hpath).1).2
  path_open := fun c hc => ⟨(mem_fst_cut hc).2, (mem_fst_cut (mem_fst_cut hc).1).2⟩
  query_open := fun hmem => (mem_fst_cut (mem_getD_cut hmem)).2 rfl
  clean := by
    intro c hc
    apply hclean c
    rw [List.mem_append, List.mem_append, List.mem_append] at hc
    rcases hc with ((hc | hc) | hc) | hc
    · exact List.mem_append_left _ hc
    · exact List.mem_append_right _ (mem_fst_cut (mem_fst_cut hc).1).1
    · exact List.mem_append_right _ (mem_fst_cut (mem_getD_cut hc)).1
    · exact List.mem_append_right _ (mem_getD_cut hc)

theorem Spelling.text_ofTail : (Spelling.ofTail hscheme hundelimited hdelimited hclean).text =
    scheme ++ ':' :: '/' :: '/' :: (authority ++ t) := by
  have htail : (Spelling.ofTail hscheme hundelimited hdelimited hclean).tail = t := by
    show (cut '?' (cut '#' t).1).1 ++ marked '?' (cut '?' (cut '#' t).1).2 ++
      marked '#' (cut '#' t).2 = t
    rw [append_marked, append_marked]
  rw [text, htail]
  rfl

end

end AgendaLinks.Uri
