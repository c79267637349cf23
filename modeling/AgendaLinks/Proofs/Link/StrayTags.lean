import AgendaLinks.Proofs.Link.Fragments
import AgendaLinks.Proofs.Markup.Tags

/-!
Angle brackets around what is no markup. A text without tags is searched as it is, and a bracket only ends
a link. With one tag at its end the text is read as markup, and what stands between two brackets becomes
the start of an element: a link there is lost, and all other links are still found.
-/

namespace AgendaLinks.Link

open Text Markup

/-- A text with angle brackets in it. What stands between two of them looks like a tag; of the last pair the
second one may be missing, and then it looks like a tag up to the end of the tag behind the text. -/
inductive Bracketed where
  | loose (s : Text) (hs : IsLoose s)
  | opened (s : Text) (hs : IsLoose s) (w : Text) (hw : IsTagLike (w ++ "<br".toList))
  | closed (s : Text) (hs : IsLoose s) (w : Text) (hw : IsTagLike w) (rest : Bracketed)

namespace Bracketed

/-- The text as it is written. -/
def text : Bracketed → Text
  | loose s _ => s
  | opened s _ w _ => s ++ '<' :: w
  | closed s _ w _ rest => s ++ '<' :: (w ++ '>' :: rest.text)

/-- What stands outside of the brackets. -/
def outside : Bracketed → List Text
  | loose s _ => [s]
  | opened s _ _ _ => [s]
  | closed s _ _ _ rest => s :: rest.outside

/-- What stands between brackets. -/
def inside : Bracketed → List Text
  | loose _ _ => []
  | opened _ _ w _ => [w]
  | closed _ _ w _ rest => w :: rest.inside

theorem isLoose_or_opens (t : Text) : IsLoose t ∨
    ∃ s c u, t = s ++ '<' :: c :: u ∧ IsLoose s ∧ opensMarkup c = true := by
  induction t with
  | nil => exact Or.inl List.isChain_nil
  | cons d t ih =>
      by_cases hopens : ∃ c ∈ t.head?, d = '<' ∧ opensMarkup c = true
      · obtain ⟨c, hc, rfl, hopens⟩ := hopens
        have ht : t = c :: t.tail := (List.cons_head?_tail hc).symm
        exact Or.inr ⟨[], c, t.tail, congrArg _ ht, List.isChain_nil, hopens⟩
      · have hnext : ∀ c ∈ t.head?, ¬(d = '<' ∧ opensMarkup c = true) :=
          fun c hc h => hopens ⟨c, hc, h⟩
        rcases ih with hloose | ⟨s, c, u, rfl, hloose, hc⟩
        · exact Or.inl (List.isChain_cons.2 ⟨hnext, hloose⟩)
        · refine Or.inr ⟨d :: s, c, u, rfl, List.isChain_cons.2 ⟨fun b hb => hnext b ?_, hloose⟩, hc⟩
          rw [List.head?_append, Option.mem_def.1 hb]
          rfl

theorem takeWhile_append_greater {w : Text} (hw : '>' ∉ w) (rest : Text) :
    (w ++ '>' :: rest).takeWhile (· ≠ '>') = w := by
  have hinner : ∀ c ∈ w, decide (c ≠ '>') = true :=
    fun c hc => decide_eq_true fun heq => hw (heq ▸ hc)
  rw [List.takeWhile_append_of_pos hinner, List.takeWhile_cons_of_neg (by decide), List.append_nil]

/-- A text is one of these if each less-than sign begins nothing or what looks like a tag, the last one up to
the end of the tag behind the text. -/
theorem exists_text_eq {t : Text} (h : ∀ s c u, t ++ "<br>".toList = s ++ '<' :: c :: u →
    opensMarkup c = true → IsTagLike ((c :: u).takeWhile (· ≠ '>'))) :
    ∃ b : Bracketed, b.text = t := by
  -- what is left behind a bracket is shorter, and the same holds of the signs in it
  induction hn : t.length using Nat.strong_induction_on generalizing t with
  | _ n ih =>
      rcases isLoose_or_opens t with hloose | ⟨s, c, u, rfl, hs, hc⟩
      · exact ⟨.loose t hloose, rfl⟩
      · have htag := h s c (u ++ "<br>".toList) (by simp) hc
        rcases cut_cases '>' (c :: u) with ⟨hnone, -⟩ | ⟨w, rest, hnone, hcu, -⟩
        · have hw : '>' ∉ (c :: u) ++ "<br".toList := by
            rw [List.mem_append, not_or]
            exact ⟨hnone, by decide⟩
          have htake := takeWhile_append_greater hw []
          rw [List.append_assoc] at htake
          rw [← List.cons_append] at htag
          exact ⟨.opened s hs (c :: u) (htake ▸ htag), rfl⟩
        · rw [← List.cons_append, hcu, List.append_assoc, List.cons_append,
            takeWhile_append_greater hnone] at htag
          rw [hcu] at h hn
          obtain ⟨b, rfl⟩ := ih rest.length (by rw [← hn]; simp; omega)
            (fun s' c' u' heq => h (s ++ '<' :: (w ++ '>' :: s')) c' u' (by simpa using heq)) rfl
          rw [hcu]
          exact ⟨.closed s hs w htag b, rfl⟩

theorem find_text_closed (s : Text) (w rest : Text) :
    find (s ++ '<' :: (w ++ '>' :: rest)) = find s ++ (find w ++ find rest) := by
  rw [find_append_cons (by decide), find_append_cons (by decide)]

/-- The links outside of brackets are found in the text, in their order. -/
theorem sublist_find_text (b : Bracketed) : (b.outside.flatMap find).Sublist (find b.text) := by
  induction b with
  | loose s hs =>
      rw [outside, List.flatMap_singleton, text]
  | opened s hs w hw =>
      rw [outside, List.flatMap_singleton, text, find_append_cons (by decide)]
      exact List.sublist_append_left _ _
  | closed s hs w hw rest ih =>
      rw [outside, List.flatMap_cons, text, find_text_closed]
      exact (List.Sublist.refl _).append (ih.trans (List.sublist_append_right _ _))

/-- Each link of the text stands outside of brackets or between them. -/
theorem length_find_text (b : Bracketed) : (find b.text).length =
    (b.outside.flatMap find).length + (b.inside.flatMap find).length := by
  induction b with
  | loose s hs =>
      rw [outside, inside, text, List.flatMap_singleton, List.flatMap_nil, List.length_nil, Nat.add_zero]
  | opened s hs w hw =>
      rw [outside, inside, text, find_append_cons (by decide), List.length_append,
        List.flatMap_singleton, List.flatMap_singleton]
  | closed s hs w hw rest ih =>
      rw [outside, inside, text, find_text_closed]
      simp only [List.flatMap_cons, List.length_append, ih]
      omega

theorem find_text_eq_iff (b : Bracketed) :
    b.outside.flatMap find = find b.text ↔ ∀ w ∈ b.inside, find w = [] := by
  have hlength := length_find_text b
  rw [← List.flatMap_eq_nil_iff, ← List.length_eq_zero_iff]
  constructor
  · intro h
    rw [← h] at hlength
    omega
  · intro h
    exact b.sublist_find_text.eq_of_length (by omega)

end Bracketed

/-- A page on which all text so far is shown, and nothing since the last tag. -/
structure Shows (p : Page) (ts : List Text) : Prop where
  current : p.current = []
  pieces : p.pieces = ts.reverse
  opened : ∀ name ∈ p.opened, isPlainElement name = true

variable {p : Page} {ts : List Text} {s w : Text}

theorem shows_start : Shows {} [] := ⟨rfl, rfl, nofun⟩

/-- Text becomes a piece at the next tag. -/
theorem Shows.endPiece_text (h : Shows p ts) (s : Text) :
    Shows (p.step (.text s)).endPiece (ts ++ shown s) := by
  have hstep : p.step (.text s) = { p with current := s } := by
    rw [Page.step, h.current, List.nil_append]
  have hvisible : ¬p.opened.any isHiddenElement = true := by
    rw [List.any_eq_true]
    rintro ⟨name, hname, hhidden⟩
    have hplain := h.opened name hname
    rw [isPlainElement, hhidden, Bool.not_true, Bool.and_false] at hplain
    cases hplain
  rw [hstep]
  cases s with
  | nil =>
      rw [shown_nil, List.append_nil]
      exact ⟨rfl, h.pieces, h.opened⟩
  | cons c s =>
      have hend : Page.endPiece { p with current := c :: s } =
          { p with current := [], pieces := (c :: s) :: p.pieces } := if_neg hvisible
      rw [hend]
      refine ⟨rfl, ?_, h.opened⟩
      rw [reverse_append_shown, h.pieces]
      rfl

theorem Shows.endPiece (h : Shows p ts) : Shows p.endPiece ts := by
  have hend := h.endPiece_text []
  rwa [step_text_nil, shown_nil, List.append_nil] at hend

theorem Shows.close (h : Shows p ts) (name : Text) : Shows (p.close name) ts := by
  rw [Page.close]
  split_ifs
  · have hend := h.endPiece
    exact ⟨hend.current, hend.pieces, fun other hother =>
      hend.opened other ((List.dropWhile_subset _) (List.mem_of_mem_drop hother))⟩
  · exact h.endPiece

theorem Shows.finish (h : Shows p ts) (name : Text) : Shows (p.finish name) ts := by
  rw [Page.finish]
  split_ifs
  · exact ⟨h.current, h.pieces, h.opened⟩
  · exact h.close name

theorem Shows.step_start (h : Shows p ts) {name : Text} (hname : isPlainElement name = true)
    (attrs : List (Text × Text)) (closed : Bool) :
    Shows ((p.step (.text s)).step (.start name attrs closed)) (ts ++ shown s) := by
  have hlink : name ≠ ['a'] := by
    rintro rfl
    exact absurd hname (by decide)
  have hend := h.endPiece_text s
  have hopened : Shows { (p.step (.text s)).endPiece with
      opened := name :: (p.step (.text s)).endPiece.opened } (ts ++ shown s) :=
    ⟨hend.current, hend.pieces, List.forall_mem_cons.2 ⟨hname, hend.opened⟩⟩
  show Shows (Page.start name attrs closed (p.step (.text s))) _
  rw [Page.start]
  simp only [if_neg hlink]
  split_ifs
  · exact hopened.finish name
  · exact ⟨(hopened.close name).current, (hopened.close name).pieces, (hopened.close name).opened⟩
  · exact hopened

/-- What stands between two brackets is not shown, and it ends the text before it. -/
theorem exists_reads_bracket (hs : IsLoose s) (hw : IsTagLike w) (hand : '&' ∉ s ∧ '&' ∉ w)
    (h : Shows p ts) :
    ∃ q, Reads p (s ++ '<' :: (w ++ ['>'])) q ∧ Shows q (ts ++ shown s) := by
  obtain ⟨attrs, closed, hreads⟩ := exists_reads_tag hw hand.2
  exact ⟨_, reads_loose hs hand.1 (hreads _), h.step_start hw.2.2 attrs closed⟩

theorem not_mem_append_cons {d : Char} (hd : d ≠ '&') (s t : Text) :
    '&' ∉ s ++ d :: t ↔ '&' ∉ s ∧ '&' ∉ t := by
  simp [Ne.symm hd]

/-- A page shows what stands outside of brackets, stretch by stretch. -/
theorem Bracketed.exists_reads (b : Bracketed) (hand : '&' ∉ b.text) (h : Shows p ts) :
    ∃ q, Reads p (b.text ++ "<br>".toList) q ∧ Shows q (ts ++ b.outside.flatMap shown) := by
  induction b generalizing p ts with
  | loose s hs =>
      rw [outside, List.flatMap_singleton]
      exact exists_reads_bracket hs (w := "br".toList) (by decide) ⟨hand, by decide⟩ h
  | opened s hs w hw =>
      rw [text, not_mem_append_cons (by decide)] at hand
      have hbr : '&' ∉ w ++ "<br".toList := by simp [hand.2]
      obtain ⟨q, hreads, hshows⟩ := exists_reads_bracket hs hw ⟨hand.1, hbr⟩ h
      -- the greater-than sign of the tag behind the text ends the last bracket
      refine ⟨q, ?_, ?_⟩
      · simpa [text] using hreads
      · rwa [outside, List.flatMap_singleton]
  | closed s hs w hw rest ih =>
      rw [text, not_mem_append_cons (by decide), not_mem_append_cons (by decide)] at hand
      obtain ⟨q, hreads, hshows⟩ := exists_reads_bracket hs hw ⟨hand.1, hand.2.1⟩ h
      obtain ⟨r, hrest, hall⟩ := ih hand.2.2 hshows
      refine ⟨r, ?_, ?_⟩
      · have happend := hreads.append hrest
        simpa [text] using happend
      · rwa [outside, List.flatMap_cons, ← List.append_assoc]

theorem hasTag_append (s : Text) {t : Text} (h : hasTag t = true) : hasTag (s ++ t) = true := by
  induction s with
  | nil => exact h
  | cons c s ih => rw [List.cons_append, hasTag, ih, Bool.or_true]

theorem Bracketed.findIn_tagged (b : Bracketed) (hand : '&' ∉ b.text) :
    findIn (b.text ++ "<br>".toList) = .ok (b.outside.flatMap find) := by
  obtain ⟨q, hreads, hshows⟩ := b.exists_reads hand shows_start
  have hend := hshows.endPiece
  have hpieces := pieces_of_reads hreads
  rw [hend.pieces, List.reverse_reverse, List.nil_append] at hpieces
  rw [findIn, if_pos (hasTag_append _ (by decide +kernel)), plainText, hpieces]
  refine congrArg Except.ok ?_
  calc find (joinWith [' '] (b.outside.flatMap shown))
    _ = (b.outside.flatMap shown).flatMap find := find_joinWith_space _
    _ = b.outside.flatMap fun s => (shown s).flatMap find := List.flatMap_assoc
    _ = b.outside.flatMap find := by simp only [flatMap_find_shown]

theorem ofEvent_notes (e : Event) {t : Text} {links : List Text} (h : findIn t = .ok links) :
    ofEvent { e with notes := some t } = (ofEvent { e with notes := none }).map (· ++ links) := by
  have htexts : textsOf { e with notes := some t } = textsOf { e with notes := none } ++ [t] := by
    simp [textsOf]
  rw [ofEvent, htexts, List.mapM_append, ofEvent, List.mapM_cons, h]
  cases (textsOf { e with notes := none }).mapM findIn with
  | error fault => rfl
  | ok found =>
      show Except.ok (found ++ [links]).flatten = Except.ok (found.flatten ++ links)
      rw [List.flatten_append, List.flatten_singleton]

/-- With a tag behind the notes of an event the links outside of brackets are still found. Those between
brackets are lost, so all links stay the same only if there are none of them, or if the other texts cannot be
read. -/
theorem ofEvent_bracketed (e : Event) (b : Bracketed) (hplain : hasTag b.text = false)
    (hand : '&' ∉ b.text) :
    ofEvent { e with notes := some (b.text ++ "<br>".toList) } =
        (ofEvent { e with notes := none }).map (· ++ b.outside.flatMap find) ∧
      (ofEvent { e with notes := some (b.text ++ "<br>".toList) } =
          ofEvent { e with notes := some b.text } ↔
        (∀ w ∈ b.inside, find w = []) ∨ ∃ fault, ofEvent { e with notes := none } = .error fault) := by
  have htext : findIn b.text = .ok (find b.text) := by
    rw [findIn, hplain]
    rfl
  have htagged := ofEvent_notes e (b.findIn_tagged hand)
  refine ⟨htagged, ?_⟩
  rw [htagged, ofEvent_notes e htext, ← b.find_text_eq_iff]
  cases ofEvent { e with notes := none } with
  | error fault => exact iff_of_true rfl (Or.inr ⟨fault, rfl⟩)
  | ok others =>
      constructor
      · intro h
        exact Or.inl (List.append_cancel_left (Except.ok.inj h))
      · rintro (h | ⟨fault, hfault⟩)
        · exact congrArg (fun links => Except.ok (others ++ links)) h
        · cases hfault

/-- Less-than signs that begin nothing, quotes, and brackets around an address and around a link; those of
the last link are not closed. -/
def remarks : Bracketed :=
  .closed "5 < 6 <> \"https://a.x/1\" or ".toList (by decide) "me@x.org".toList (by decide) <|
    .closed ", 'http://c', <".toList (by decide) "https://zoom.us/j/1?pwd=x/".toList (by decide) <|
    .opened " http://d ".toList (by decide) "http://e / f=".toList (by decide)

theorem ofEvent_remarks : hasTag remarks.text = false ∧ '&' ∉ remarks.text ∧
    ∃ e : Event, e.notes = some
        ("5 < 6 <> \"https://a.x/1\" or <me@x.org>, 'http://c', <<https://zoom.us/j/1?pwd=x/>".toList ++
          " http://d <http://e / f=<br>".toList) ∧
      ofEvent e = .ok ["https://a.x/1".toList, "http://c".toList, "http://d".toList] ∧
      ofEvent e ≠ ofEvent { e with notes := some remarks.text } := by
  have hplain : hasTag remarks.text = false := by
    decide +kernel
  have hand : '&' ∉ remarks.text := by
    decide +kernel
  let e : Event :=
    { title := "Call".toList, calendar := "Work".toList,
      notes := some (remarks.text ++ "<br>".toList) }
  obtain ⟨hlinks, hsame⟩ := ofEvent_bracketed e remarks hplain hand
  refine ⟨hplain, hand, e, ?_, hlinks.trans (congrArg Except.ok ?_), fun heq => ?_⟩
  · decide +kernel
  · decide +kernel
  · have hlost : find "https://zoom.us/j/1?pwd=x/".toList ≠ [] := by
      decide +kernel
    rcases hsame.1 heq with hnone | ⟨fault, hfault⟩
    · exact hlost (hnone _ (by decide))
    · cases hfault

/-- A link between brackets is found only as long as there is no tag in the notes. -/
theorem ofEvent_link_in_brackets :
    let notes := "<https://example.com/doc>".toList
    let e : Event := { title := "Planning".toList, calendar := "Work".toList, notes := some notes }
    '&' ∉ notes ∧ hasTag notes = false ∧ ofEvent e = .ok ["https://example.com/doc".toList] ∧
      ofEvent { e with notes := some (notes ++ "<br>".toList) } = .ok [] := by
  refine ⟨by decide, by decide, ?_, ?_⟩
  · decide +kernel
  · decide +kernel

end AgendaLinks.Link
