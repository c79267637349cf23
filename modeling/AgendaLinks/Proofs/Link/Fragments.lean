import AgendaLinks.Proofs.Link.Words
import AgendaLinks.Proofs.Markup.Reading
import Mathlib.Data.List.Chain

/-!
Links in markup. A paragraph is made of text and of links with a text of their own. Each of them is a piece
of the text of the paragraph, with a space before the next one, so the links are found in the order in which
they stand there, the target of a link before those in its text.
-/

namespace AgendaLinks.Link

open Text Markup

/-- A part of a paragraph: text, or a link with a text of its own. -/
inductive Fragment where
  | text (t : Text)
  | link (target : Text) (h : IsLink target) (t : Text)

namespace Fragment

def isText : Fragment → Bool
  | text _ => true
  | link _ _ _ => false

/-- The links of a fragment, and those in its text. -/
def links : Fragment → List Text
  | text t => find t
  | link target _ t => target :: find t

/-- A fragment as it is written in markup. -/
def markup : Fragment → Text
  | text t => escape t
  | link target _ t =>
    "<a href=\"".toList ++ escape target ++ "\">".toList ++ escape t ++ "</a>".toList

end Fragment

/-- Fragments in a paragraph, with no two texts next to each other. -/
def AreApart (fs : List Fragment) : Prop :=
  fs.IsChain fun f g => ¬(f.isText = true ∧ g.isText = true)

instance (fs : List Fragment) : Decidable (AreApart fs) :=
  inferInstanceAs (Decidable (List.IsChain _ _))

/-- A paragraph as it is written in markup. -/
def paragraph (fs : List Fragment) : Text :=
  "<p>".toList ++ fs.flatMap Fragment.markup ++ "</p>".toList

/-- The text since the last tag, if there is any. -/
def shown (t : Text) : List Text := if t = [] then [] else [t]

theorem shown_nil : shown [] = [] := rfl

def Fragment.pieces : Fragment → List Text
  | text t => shown t
  | link target _ t => target :: shown t

/-- A page in the middle of a paragraph, outside of links. -/
def inParagraph (before : List Text) (current : Text) : Page :=
  { opened := ["p".toList], current, pieces := before.reverse }

/-- A page in the middle of a link. -/
def inLink (before : List Text) (current : Text) : Page :=
  { opened := ["a".toList, "p".toList], current, pieces := before.reverse }

section

variable (before : List Text) (current : Text)

theorem reverse_append_shown : (before ++ shown current).reverse = shown current ++ before.reverse := by
  cases current with
  | nil => rw [shown, if_pos rfl, List.append_nil, List.nil_append]
  | cons c current => rw [shown, if_neg (List.cons_ne_nil c current), List.reverse_append]; rfl

theorem step_link_start (target : Text) :
    (inParagraph before current).step (.start "a".toList [("href".toList, target)] false) =
      inLink (before ++ shown current ++ [target]) [] := by
  rw [inLink, List.reverse_append, reverse_append_shown]
  cases current with
  | nil => rfl
  | cons c current => rfl

theorem step_link_end : (inLink before current).step (.finish "a".toList) =
    inParagraph (before ++ shown current) [] := by
  rw [inParagraph, reverse_append_shown]
  cases current with
  | nil => rfl
  | cons c current => rfl

theorem step_paragraph_end : (inParagraph before current).step (.finish "p".toList) =
    { pieces := (before ++ shown current).reverse } := by
  rw [reverse_append_shown]
  cases current with
  | nil => rfl
  | cons c current => rfl

theorem reads_link {target : Text} (h : IsLink target) (t : Text) :
    Reads (inParagraph before current) (Fragment.link target h t).markup
      (inParagraph (before ++ shown current ++ target :: shown t) []) := by
  have hquote : '"' ∉ target := fun hmem => absurd (h.2 _ hmem) (by decide)
  have hstart := reads_link_start hquote (inParagraph before current)
  rw [step_link_start] at hstart
  have htext := reads_escape (inLink (before ++ shown current ++ [target]) []) t
  have hend := reads_link_end (inLink (before ++ shown current ++ [target]) t)
  rw [step_link_end] at hend
  rw [List.append_cons]
  exact (hstart.append htext).append hend

end

/-- Fragments that stand apart are read piece by piece, if there is no text since the last tag or a link
comes first. -/
theorem exists_reads_fragments {fs : List Fragment} (h : AreApart fs) {before : List Text}
    {current : Text} (hcurrent : current = [] ∨ ∀ f ∈ fs.head?, f.isText = false) :
    ∃ before' current',
      Reads (inParagraph before current) (fs.flatMap Fragment.markup)
        (inParagraph before' current') ∧
      before' ++ shown current' = before ++ shown current ++ fs.flatMap Fragment.pieces := by
  induction fs generalizing before current with
  | nil => exact ⟨before, current, Reads.nil _, (List.append_nil _).symm⟩
  | cons f fs ih =>
      obtain ⟨hnext, hrest⟩ := List.isChain_cons.1 h
      cases f with
      | text t =>
          obtain rfl : current = [] := hcurrent.resolve_right fun hlink => nomatch hlink _ rfl
          have hlink : ∀ f ∈ fs.head?, f.isText = false := fun f hf =>
            Bool.eq_false_iff.2 fun htext => hnext f hf ⟨rfl, htext⟩
          have htext : Reads (inParagraph before []) (escape t) (inParagraph before t) :=
            reads_escape _ t
          obtain ⟨before', current', hreads, hpieces⟩ := ih hrest (Or.inr hlink)
          refine ⟨before', current', htext.append hreads, ?_⟩
          rw [hpieces, List.flatMap_cons, shown_nil, List.append_nil, List.append_assoc]
          rfl
      | link target htarget t =>
          obtain ⟨before', current', hreads, hpieces⟩ := ih hrest (Or.inl rfl)
          refine ⟨before', current', (reads_link before current htarget t).append hreads, ?_⟩
          rw [hpieces, List.flatMap_cons, shown_nil, List.append_nil, List.append_assoc]
          rfl

/-- The pieces of a paragraph are those of its fragments. -/
theorem pieces_paragraph {fs : List Fragment} (h : AreApart fs) :
    Markup.pieces (paragraph fs) = .ok (fs.flatMap Fragment.pieces) := by
  have hstart : Reads {} "<p>".toList (inParagraph [] []) := reads_paragraph_start {}
  obtain ⟨before, current, hreads, hpieces⟩ := exists_reads_fragments h (Or.inl rfl)
  have hend := reads_paragraph_end (inParagraph before current)
  rw [step_paragraph_end, hpieces] at hend
  rw [paragraph, pieces_of_reads ((hstart.append hreads).append hend)]
  exact congrArg Except.ok (List.reverse_reverse _)

theorem find_joinWith_space (ts : List Text) : find (joinWith [' '] ts) = ts.flatMap find := by
  induction ts with
  | nil => rw [joinWith, find, List.flatMap_nil]
  | cons t ts ih =>
      cases ts with
      | nil => rw [joinWith, List.flatMap_cons, List.flatMap_nil, List.append_nil]
      | cons u ts =>
          rw [joinWith, List.append_assoc, List.singleton_append, find_append_cons (by decide), ih]
          exact List.flatMap_cons.symm

theorem flatMap_find_shown (t : Text) : (shown t).flatMap find = find t := by
  rw [shown]
  split_ifs with ht
  · rw [ht, find, List.flatMap_nil]
  · rw [List.flatMap_cons, List.flatMap_nil, List.append_nil]

theorem Fragment.flatMap_find_pieces (f : Fragment) : f.pieces.flatMap find = f.links := by
  cases f with
  | text t => exact flatMap_find_shown t
  | link target h t =>
      rw [pieces, List.flatMap_cons, find_of_isLink h, flatMap_find_shown]
      rfl

theorem hasTag_paragraph (fs : List Fragment) : hasTag (paragraph fs) = true := rfl

theorem findIn_paragraph {fs : List Fragment} (h : AreApart fs) :
    findIn (paragraph fs) = .ok (fs.flatMap Fragment.links) := by
  rw [findIn, if_pos (hasTag_paragraph fs), plainText, pieces_paragraph h]
  refine congrArg Except.ok ?_
  calc find (joinWith [' '] (fs.flatMap Fragment.pieces))
    _ = (fs.flatMap Fragment.pieces).flatMap find := find_joinWith_space _
    _ = fs.flatMap fun f => f.pieces.flatMap find := List.flatMap_assoc
    _ = fs.flatMap Fragment.links := by simp only [Fragment.flatMap_find_pieces]

/-- The links in notes that are a paragraph come behind those in the other texts of an event, fragment by
fragment and each with its target in front. Without other texts they are all there is. -/
theorem ofEvent_paragraph {e : Event} {fs : List Fragment} (h : AreApart fs)
    (hnotes : e.notes = some (paragraph fs)) :
    ofEvent e = (ofEvent { e with notes := none }).map (· ++ fs.flatMap Fragment.links) ∧
      (e.url = none → e.location = none → ofEvent e = .ok (fs.flatMap Fragment.links)) := by
  have htexts : textsOf e = textsOf { e with notes := none } ++ [paragraph fs] := by
    rw [textsOf, textsOf, hnotes]
    simp
  have hall : ofEvent e = (ofEvent { e with notes := none }).map (· ++ fs.flatMap Fragment.links) := by
    rw [ofEvent, htexts, List.mapM_append, ofEvent, List.mapM_cons, findIn_paragraph h]
    cases (textsOf { e with notes := none }).mapM findIn with
    | error fault => rfl
    | ok found =>
        show Except.ok (found ++ [fs.flatMap Fragment.links]).flatten =
          Except.ok (found.flatten ++ fs.flatMap Fragment.links)
        rw [List.flatten_append, List.flatten_singleton]
  refine ⟨hall, fun hurl hlocation => ?_⟩
  rw [hall, ofEvent, textsOf, hurl, hlocation]
  rfl

/-- Text that looks like a tag and like a reference, and two links next to each other, one of them without
text and with a reference in its target. -/
def invitation : List Fragment :=
  [.text "R&D <b> https://a.x/?q&amp;r\"".toList,
    .link "https://zoom.us/j/1?a&lt;=b".toList (by decide) [],
    .link "http://c".toList (by decide) "x https://zoom.us/j/2?a&b".toList,
    .text "http://d>".toList]

theorem ofEvent_invitation : AreApart invitation ∧
    ∃ e : Event, e.url = none ∧ e.location = none ∧
      e.notes = some ("<p>R&amp;D &lt;b&gt; https://a.x/?q&amp;amp;r\"".toList ++
        "<a href=\"https://zoom.us/j/1?a&amp;lt;=b\"></a>".toList ++
        "<a href=\"http://c\">x https://zoom.us/j/2?a&amp;b</a>http://d&gt;</p>".toList) ∧
      ofEvent e = .ok ["https://a.x/?q&amp;r".toList, "https://zoom.us/j/1?a&lt;=b".toList,
        "http://c".toList, "https://zoom.us/j/2?a&b".toList, "http://d".toList] := by
  have happart : AreApart invitation := by
    decide
  let e : Event :=
    { title := "Call".toList, calendar := "Work".toList, notes := some (paragraph invitation) }
  have hlinks : ofEvent e = .ok (invitation.flatMap Fragment.links) :=
    (ofEvent_paragraph happart rfl).2 rfl rfl
  refine ⟨happart, e, rfl, rfl, ?_, hlinks.trans (congrArg Except.ok ?_)⟩
  · decide +kernel
  · decide +kernel

end AgendaLinks.Link
