import AgendaLinks.Markup.PlainText
import AgendaLinks.Proofs.Text.Cuts

/-!
Reading markup piece by piece. What a stretch of well-formed markup does to a page does not depend on what
follows it, so a page can be followed from one character of text, one reference and one tag to the next.
-/

namespace AgendaLinks.Markup

open Text

/-- The page that a text leads to, outside of elements with raw contents. -/
def readFrom (n : Nat) (p : Page) (t : Text) : Except Fault Page :=
  (scan n false none t).map (·.foldl Page.step p)

/-- A stretch of markup leads from one page to another, whatever follows it. -/
def Reads (p : Page) (t : Text) (q : Page) : Prop :=
  ∀ n rest, t.length + rest.length < n →
    ∃ m, rest.length < m ∧ readFrom n p (t ++ rest) = readFrom m q rest

variable {p q r : Page} {s t : Text}

theorem Reads.nil (p : Page) : Reads p [] p := by
  intro n rest hn
  rw [List.length_nil, Nat.zero_add] at hn
  exact ⟨n, hn, rfl⟩

theorem Reads.append (hs : Reads p s q) (ht : Reads q t r) : Reads p (s ++ t) r := by
  intro n rest hn
  rw [List.length_append] at hn
  obtain ⟨m, hm, hfirst⟩ := hs n (t ++ rest) (by rw [List.length_append]; omega)
  rw [List.length_append] at hm
  obtain ⟨k, hk, hsecond⟩ := ht m rest hm
  exact ⟨k, hk, by rw [List.append_assoc, hfirst, hsecond]⟩

/-- Markup that is read to its end has the pieces of the page that it leads to. -/
theorem pieces_of_reads (h : Reads {} t p) : pieces t = .ok p.endPiece.pieces.reverse := by
  obtain ⟨m, hm, hread⟩ := h (t.length + 2) [] (by rw [List.length_nil]; omega)
  obtain ⟨k, rfl⟩ : ∃ k, m = k + 1 := ⟨m - 1, by omega⟩
  rw [List.append_nil, readFrom] at hread
  have hpage : readFrom (k + 1) p [] = .ok p := rfl
  rw [hpage] at hread
  rw [pieces, tokens]
  cases htokens : scan (t.length + 2) false none t with
  | error fault =>
      rw [htokens] at hread
      cases hread
  | ok tokens =>
      rw [htokens] at hread
      cases hread
      rfl

theorem step_text_nil (p : Page) : p.step (.text []) = p := by
  rw [Page.step, List.append_nil]

theorem step_text_append (p : Page) (s t : Text) :
    p.step (.text (s ++ t)) = (p.step (.text s)).step (.text t) := by
  simp only [Page.step, List.append_assoc]

theorem map_foldl_cons (p : Page) (token : Token) (x : Except Fault (List Token)) :
    ((token :: ·) <$> x).map (·.foldl Page.step p) = x.map (·.foldl Page.step (p.step token)) := by
  cases x with
  | error fault => rfl
  | ok tokens => rfl

/-- Text before other tokens is added to the page first. -/
theorem map_foldl_ofText (p : Page) (t : Text) (x : Except Fault (List Token)) :
    (ofText t <$> x).map (·.foldl Page.step p) = x.map (·.foldl Page.step (p.step (.text t))) := by
  cases x with
  | error fault => rfl
  | ok tokens =>
      cases t with
      | nil => rw [step_text_nil]; rfl
      | cons c t => rfl

theorem reads_char {c : Char} (h : (c = '<' || c = '&') = false) (p : Page) :
    Reads p [c] (p.step (.text [c])) := by
  intro n rest hn
  obtain ⟨k, rfl⟩ : ∃ k, n = k + 1 := ⟨n - 1, by omega⟩
  -- the character and the plain text behind it are read in one step, so the steps stay the same
  refine ⟨k + 1, Nat.lt_of_add_left_lt hn, ?_⟩
  have hspan : (c :: rest).span (fun c => !(c = '<' || c = '&')) =
      (c :: (rest.span fun c => !(c = '<' || c = '&')).1,
        (rest.span fun c => !(c = '<' || c = '&')).2) := by
    rw [List.span_eq_takeWhile_dropWhile, List.span_eq_takeWhile_dropWhile,
      List.takeWhile_cons_of_pos (by rw [h]; rfl), List.dropWhile_cons_of_pos (by rw [h]; rfl)]
  rw [List.singleton_append, readFrom, readFrom, scan, scan, hspan]
  simp only [map_foldl_ofText]
  rw [← step_text_append, List.singleton_append]

theorem reads_reference {after s : Text} (p : Page)
    (h : ∀ rest, reference (after ++ rest) = .ok (.text s after.length)) :
    Reads p ('&' :: after) (p.step (.text s)) := by
  intro n rest hn
  rw [List.length_cons] at hn
  obtain ⟨k, rfl⟩ : ∃ k, n = k + 1 := ⟨n - 1, by omega⟩
  refine ⟨k, by omega, ?_⟩
  have hscan : scan (k + 1) false none ('&' :: (after ++ rest)) =
      ofText [] <$> (reference (after ++ rest) >>= _) := rfl
  rw [List.cons_append, readFrom, hscan, map_foldl_ofText, step_text_nil, h]
  simp only [bind, Except.bind, List.drop_left]
  exact map_foldl_cons p _ _

theorem reads_tag {after : Text} {token : Token} (p : Page)
    (h : ∀ rest, piece (after ++ rest) = .ok (.token token rest)) (hraw : rawAfter token = none) :
    Reads p ('<' :: after) (p.step token) := by
  intro n rest hn
  rw [List.length_cons] at hn
  obtain ⟨k, rfl⟩ : ∃ k, n = k + 1 := ⟨n - 1, by omega⟩
  refine ⟨k, by omega, ?_⟩
  have hscan : scan (k + 1) false none ('<' :: (after ++ rest)) =
      ofText [] <$> (piece (after ++ rest) >>= _) := rfl
  rw [List.cons_append, readFrom, hscan, map_foldl_ofText, step_text_nil, h]
  simp only [bind, Except.bind, hraw]
  exact map_foldl_cons p _ _

/-- A character of text as it is written in markup. -/
def escapeChar (c : Char) : Text :=
  if c = '&' then "&amp;".toList else if c = '<' then "&lt;".toList
  else if c = '>' then "&gt;".toList else [c]

/-- Text as it is written in markup. -/
def escape (t : Text) : Text := t.flatMap escapeChar

/-- A character stands for itself, or a reference to it is written in its place. -/
theorem escapeChar_cases (c : Char) :
    (escapeChar c = [c] ∧ c ≠ '&' ∧ c ≠ '<') ∨
      ∃ name, escapeChar c = '&' :: name ∧
        (∀ rest, reference (name ++ rest) = .ok (.text [c] name.length)) ∧
        ∀ rest, attributeValue ('&' :: (name ++ rest)) = (c :: ·) <$> attributeValue rest := by
  by_cases hmark : c = '&' ∨ c = '<' ∨ c = '>'
  · right
    rcases hmark with rfl | rfl | rfl
    · refine ⟨"amp;".toList, rfl, fun _ => rfl, fun rest => ?_⟩
      rw [attributeValue, if_pos rfl]
      rfl
    · refine ⟨"lt;".toList, rfl, fun _ => rfl, fun rest => ?_⟩
      rw [attributeValue, if_pos rfl]
      rfl
    · refine ⟨"gt;".toList, rfl, fun _ => rfl, fun rest => ?_⟩
      rw [attributeValue, if_pos rfl]
      rfl
  · rw [not_or, not_or] at hmark
    obtain ⟨hand, hless, hgreater⟩ := hmark
    exact Or.inl ⟨by rw [escapeChar, if_neg hand, if_neg hless, if_neg hgreater], hand, hless⟩

theorem reads_escapeChar (p : Page) (c : Char) : Reads p (escapeChar c) (p.step (.text [c])) := by
  rcases escapeChar_cases c with ⟨hself, hand, hless⟩ | ⟨name, hname, hreference, -⟩
  · rw [hself]
    exact reads_char (by simp [hand, hless]) p
  · rw [hname]
    exact reads_reference p hreference

/-- Escaped text is read as the text. -/
theorem reads_escape (p : Page) (t : Text) : Reads p (escape t) (p.step (.text t)) := by
  induction t generalizing p with
  | nil =>
      rw [step_text_nil]
      exact Reads.nil p
  | cons c t ih =>
      have hstep : p.step (.text (c :: t)) = (p.step (.text [c])).step (.text t) :=
        step_text_append p [c] t
      rw [escape, List.flatMap_cons, hstep]
      exact (reads_escapeChar p c).append (ih _)

theorem attributeValue_escapeChar (c : Char) (t : Text) :
    attributeValue (escapeChar c ++ t) = (c :: ·) <$> attributeValue t := by
  rcases escapeChar_cases c with ⟨hself, hand, -⟩ | ⟨name, hname, -, hvalue⟩
  · rw [hself, List.singleton_append, attributeValue, if_neg hand]
  · rw [hname, List.cons_append, hvalue]

theorem attributeValue_escape (t : Text) : attributeValue (escape t) = .ok t := by
  induction t with
  | nil => rw [escape, List.flatMap_nil, attributeValue]
  | cons c t ih =>
      rw [escape, List.flatMap_cons, attributeValue_escapeChar]
      show (c :: ·) <$> attributeValue (escape t) = _
      rw [ih]
      rfl

/-- A tag that a greater-than sign ends is the start of an element with the attributes written in it. -/
theorem startTag_eq {t name rest written after : Text} {last : Char}
    {attrs values : List (Text × Text)} (hname : t.span isTagChar = (name, rest))
    (hskip : skipSeparators (name.getLastD 'a') rest = (last, written))
    (hattributes : attributes written.length last written = (attrs, '>' :: after))
    (hvalues : attrs.mapM (fun (key, value) => (attributeValue value).map fun v => (key, v)) =
      .ok values) :
    startTag t = .ok (.token (.start (lower name) values false) after) := by
  rw [startTag, hname]
  simp only [hskip, hattributes, hvalues]
  rfl

theorem value?_quoted (h : '"' ∉ t) (rest : Text) :
    value? ('=' :: '"' :: (t ++ '"' :: rest)) = some (t, '"', rest) := by
  have hsigns : (('=' :: '"' :: (t ++ '"' :: rest)).dropWhile isBlank).span (· = '=') =
      (['='], '"' :: (t ++ '"' :: rest)) := rfl
  have hquoted : ('"' :: (t ++ '"' :: rest)).dropWhile isBlank = '"' :: (t ++ '"' :: rest) := rfl
  rw [value?, hsigns]
  simp only [hquoted, cut_append h]
  rfl

theorem attributes_of_end (n : Nat) (rest : Text) :
    attributes n '"' ('>' :: rest) = ([], '>' :: rest) := by
  cases n with
  | zero => rfl
  | succ n => rfl

theorem attributes_href (h : '"' ∉ t) (n : Nat) (rest : Text) :
    attributes (n + 1) ' ' ("href=\"".toList ++ t ++ '"' :: '>' :: rest) =
      ([("href".toList, t)], '>' :: rest) := by
  have hname : ("ref=\"".toList ++ t ++ '"' :: '>' :: rest).span
      (fun d => !(isBlank d || d = '/' || d = '=' || d = '>')) =
      ("ref".toList, '=' :: '"' :: (t ++ '"' :: '>' :: rest)) := rfl
  have hskip : skipSeparators '"' ('>' :: rest) = ('"', '>' :: rest) := rfl
  show attributes (n + 1) ' ' ('h' :: ("ref=\"".toList ++ t ++ '"' :: '>' :: rest)) = _
  rw [attributes, hname]
  refine (if_pos ?_).trans ?_
  · rfl
  · simp only [value?_quoted h, Option.getD_some, hskip, attributes_of_end]
    rfl

theorem not_mem_escape (h : '"' ∉ t) : '"' ∉ escape t := by
  intro hmem
  obtain ⟨c, hc, hquote⟩ := List.mem_flatMap.1 hmem
  rw [escapeChar] at hquote
  split_ifs at hquote
  · exact absurd hquote (by decide)
  · exact absurd hquote (by decide)
  · exact absurd hquote (by decide)
  · rw [List.mem_singleton.1 hquote] at h
    exact h hc

theorem piece_link (h : '"' ∉ t) (rest : Text) :
    piece ("a href=\"".toList ++ escape t ++ '"' :: '>' :: rest) =
      .ok (.token (.start "a".toList [("href".toList, t)] false) rest) := by
  have hname : ("a href=\"".toList ++ escape t ++ '"' :: '>' :: rest).span isTagChar =
      ("a".toList, ' ' :: ("href=\"".toList ++ escape t ++ '"' :: '>' :: rest)) := rfl
  have hskip : skipSeparators 'a' (' ' :: ("href=\"".toList ++ escape t ++ '"' :: '>' :: rest)) =
      (' ', "href=\"".toList ++ escape t ++ '"' :: '>' :: rest) := rfl
  have hvalues : [("href".toList, escape t)].mapM (fun (key, value) =>
      (attributeValue value).map fun v => (key, v)) = .ok [("href".toList, t)] := by
    simp only [List.mapM_cons, attributeValue_escape]
    rfl
  exact startTag_eq hname hskip (attributes_href (not_mem_escape h) _ rest) hvalues

/-- A link is started with its target in quotes. -/
theorem reads_link_start (h : '"' ∉ t) (p : Page) :
    Reads p ("<a href=\"".toList ++ escape t ++ "\">".toList)
      (p.step (.start "a".toList [("href".toList, t)] false)) := by
  have hpiece : ∀ rest, piece (("a href=\"".toList ++ escape t ++ "\">".toList) ++ rest) =
      .ok (.token (.start "a".toList [("href".toList, t)] false) rest) := by
    intro rest
    rw [List.append_assoc]
    exact piece_link h rest
  exact reads_tag p hpiece rfl

theorem reads_link_end (p : Page) : Reads p "</a>".toList (p.step (.finish "a".toList)) := by
  have hpiece : ∀ rest, piece ("/a>".toList ++ rest) = .ok (.token (.finish "a".toList) rest) :=
    fun _ => rfl
  exact reads_tag p hpiece rfl

theorem reads_paragraph_start (p : Page) :
    Reads p "<p>".toList (p.step (.start "p".toList [] false)) := by
  have hpiece : ∀ rest, piece ("p>".toList ++ rest) =
      .ok (.token (.start "p".toList [] false) rest) := fun _ => rfl
  exact reads_tag p hpiece rfl

theorem reads_paragraph_end (p : Page) : Reads p "</p>".toList (p.step (.finish "p".toList)) := by
  have hpiece : ∀ rest, piece ("/p>".toList ++ rest) = .ok (.token (.finish "p".toList) rest) :=
    fun _ => rfl
  exact reads_tag p hpiece rfl

end AgendaLinks.Markup
