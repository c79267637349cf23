import AgendaLinks.Proofs.Markup.Reading
import Mathlib.Data.List.Chain

/-!
What a less-than sign before a letter begins. Up to the next greater-than sign it is read as the start of
an element, whatever stands between the two signs, as long as no quote stands there: the name goes up to
the first blank or slash, and what is left is taken for attributes.
-/

namespace AgendaLinks.Markup

open Text

/-- Characters that neither end a tag nor keep its end from being seen. -/
def isInner (c : Char) : Bool := c ≠ '>' && c ≠ '"' && c ≠ '\'' && c ≠ '\x00'

/-- Characters between attributes. -/
def isSeparator (c : Char) : Bool := isBlank c || c = '/'

/-- The end of a tag. -/
def tagEnd (closed : Bool) : Text := if closed then ['/', '>'] else ['>']

/-- Between two attributes: nothing is left of the tag but its end, or the next attribute begins behind a
separator. -/
def IsBetween (last : Char) (t : Text) : Prop :=
  t = [] ∨ t = ['/'] ∨ (isSeparator last = true ∧ ∃ c u, t = c :: u ∧ isSeparator c = false)

/-- Characters in the name of an attribute behind the first one. -/
def isAttributeChar (c : Char) : Bool := !(isBlank c || c = '/' || c = '=' || c = '>')

variable {t : Text}

theorem ne_greater_of_isInner {c : Char} (h : isInner c = true) : c ≠ '>' := by
  rintro rfl
  exact absurd h (by decide)

theorem not_quote_of_isInner {c : Char} (h : isInner c = true) : c ≠ '\'' ∧ c ≠ '"' := by
  constructor
  · rintro rfl
    exact absurd h (by decide)
  · rintro rfl
    exact absurd h (by decide)

theorem not_quote_of_mem_head? (ht : ∀ c ∈ t, isInner c = true) (rest : Text) :
    ∀ q ∈ (t ++ '>' :: rest).head?, q ≠ '\'' ∧ q ≠ '"' := by
  intro q hq
  cases t with
  | nil =>
      cases hq
      decide
  | cons c t =>
      cases hq
      exact not_quote_of_isInner (ht q List.mem_cons_self)

/-- What is skipped without quotes goes up to the next attribute or to the end of the tag. -/
theorem skipSeparators_inner (last : Char) (ht : ∀ c ∈ t, isInner c = true)
    (h : isSeparator last = true ∨ ∀ c ∈ t.head?, isSeparator c = true) :
    ∃ last' t', t' <:+ t ∧ IsBetween last' t' ∧
      ∀ rest, skipSeparators last (t ++ '>' :: rest) = (last', t' ++ '>' :: rest) := by
  induction t generalizing last with
  | nil => exact ⟨last, [], List.suffix_rfl, Or.inl rfl, fun rest => rfl⟩
  | cons c t ih =>
      have hrest : ∀ d ∈ t, isInner d = true := fun d hd => ht d (List.mem_cons_of_mem c hd)
      by_cases hblank : isBlank c = true
      · obtain ⟨last', t', hsuffix, hbetween, hskip⟩ :=
          ih c hrest (Or.inl (by simp [isSeparator, hblank]))
        refine ⟨last', t', hsuffix.trans (List.suffix_cons c t), hbetween, fun rest => ?_⟩
        rw [List.cons_append, skipSeparators, if_pos hblank, hskip]
      · by_cases hslash : c = '/'
        · cases t with
          | nil =>
              rw [hslash]
              refine ⟨last, ['/'], List.suffix_rfl, Or.inr (Or.inl rfl), fun rest => ?_⟩
              simp [skipSeparators, isBlank]
          | cons d t =>
              have hd := ne_greater_of_isInner (hrest d List.mem_cons_self)
              obtain ⟨last', t', hsuffix, hbetween, hskip⟩ :=
                ih c hrest (Or.inl (by simp [isSeparator, hslash]))
              refine ⟨last', t', hsuffix.trans (List.suffix_cons c _), hbetween, fun rest => ?_⟩
              rw [List.cons_append, skipSeparators, if_neg hblank, if_pos (by simp [hslash, hd]),
                hskip]
        · have hc : isSeparator c = false := by
            simp [isSeparator, hblank, hslash]
          have hlast : isSeparator last = true := by
            apply h.resolve_right
            intro hhead
            rw [hhead c rfl] at hc
            cases hc
          refine ⟨last, c :: t, List.suffix_rfl, Or.inr (Or.inr ⟨hlast, c, t, rfl, hc⟩),
            fun rest => ?_⟩
          rw [List.cons_append, skipSeparators, if_neg hblank, if_neg (by simp [hslash])]

/-- A value without a quote in front goes up to the next blank or to the end of the tag. -/
theorem value?_bare {s rest value after : Text} {sign : Char} {signs : Text}
    (hsigns : (s.dropWhile isBlank).span (· = '=') = (sign :: signs, rest))
    (hquote : ∀ q ∈ (rest.dropWhile isBlank).head?, q ≠ '\'' ∧ q ≠ '"')
    (hvalue : (rest.dropWhile isBlank).span (fun c => !(isBlank c || c = '>')) = (value, after)) :
    value? s = some (value, '=', after) := by
  rw [value?, hsigns]
  simp only
  cases hbare : rest.dropWhile isBlank with
  | nil =>
      rw [hbare] at hvalue
      cases hvalue
      rfl
  | cons q inner =>
      rw [hbare] at hquote hvalue
      obtain ⟨hsingle, hdouble⟩ := hquote q rfl
      have hnone : ¬(decide (q = '\'') || decide (q = '"')) = true := by simp [hsingle, hdouble]
      refine (if_neg hnone).trans ?_
      show some (((q :: inner).span fun c => !(isBlank c || c = '>')).1, '=',
        ((q :: inner).span fun c => !(isBlank c || c = '>')).2) = _
      rw [hvalue]

/-- After the name of an attribute without quotes there is a value, or there is none, and what follows it
begins at a separator. -/
theorem value?_inner (ht : ∀ c ∈ t, isInner c = true)
    (h : ∀ c ∈ t.head?, c = '=' ∨ isSeparator c = true) (d : Char) :
    ∃ value last t', t' <:+ t ∧ (∀ c ∈ value, c ∈ t) ∧ (∀ c ∈ t'.head?, isSeparator c = true) ∧
      ∀ rest, (value? (t ++ '>' :: rest)).getD ([], d, t ++ '>' :: rest) =
        (value, last, t' ++ '>' :: rest) := by
  let u := ((t.dropWhile isBlank).dropWhile (· = '=')).dropWhile isBlank
  let bare (c : Char) : Bool := !(isBlank c || c = '>')
  have hu : u <:+ t := (List.dropWhile_suffix _).trans
    ((List.dropWhile_suffix _).trans (List.dropWhile_suffix _))
  have hinner : ∀ c ∈ u, isInner c = true := fun c hc => ht c (hu.subset hc)
  have hparts : ∀ rest, ((t ++ '>' :: rest).dropWhile isBlank).span (· = '=') =
      ((t.dropWhile isBlank).takeWhile (· = '='),
        (t.dropWhile isBlank).dropWhile (· = '=') ++ '>' :: rest) := by
    intro rest
    rw [dropWhile_append_cons (by decide), span_append_cons (by decide)]
  cases hsigns : (t.dropWhile isBlank).takeWhile (· = '=') with
  | nil =>
      refine ⟨[], d, t, List.suffix_rfl, nofun, fun c hc => ?_, fun rest => ?_⟩
      · refine (h c hc).resolve_left fun heq => ?_
        obtain ⟨t, rfl⟩ : ∃ u, t = c :: u := ⟨t.tail, (List.cons_head?_tail hc).symm⟩
        rw [heq] at hsigns
        cases hsigns
      · rw [value?, hparts]
        simp only [hsigns, Option.getD_none]
  | cons sign signs =>
      have hrest : ∀ rest,
          ((t.dropWhile isBlank).dropWhile (· = '=') ++ '>' :: rest).dropWhile isBlank =
            u ++ '>' :: rest := fun rest => dropWhile_append_cons (by decide) _ _
      refine ⟨u.takeWhile bare, '=', u.dropWhile bare, (List.dropWhile_suffix _).trans hu,
        fun c hc => hu.subset ((List.takeWhile_subset _) hc), fun c hc => ?_, fun rest => ?_⟩
      · obtain ⟨hmem, hbare⟩ := of_mem_head?_dropWhile hc
        have hend := ne_greater_of_isInner (hinner c hmem)
        have hblank : isBlank c = true := by simpa [bare, hend] using hbare
        simp [isSeparator, hblank]
      · have hquote := not_quote_of_mem_head? hinner rest
        have hspan : (u ++ '>' :: rest).span bare =
            (u.takeWhile bare, u.dropWhile bare ++ '>' :: rest) := span_append_cons rfl u rest
        rw [← hrest] at hquote hspan
        have hfound := value?_bare ((hparts rest).trans (by rw [hsigns])) hquote hspan
        rw [hfound]
        rfl

theorem head?_dropWhile_isAttributeChar (ht : ∀ c ∈ t, isInner c = true) :
    ∀ c ∈ (t.dropWhile isAttributeChar).head?, c = '=' ∨ isSeparator c = true := by
  intro c hc
  obtain ⟨hmem, hother⟩ := of_mem_head?_dropWhile hc
  have hend := ne_greater_of_isInner (ht c hmem)
  by_cases hc' : isSeparator c = true
  · exact Or.inr hc'
  · rw [isSeparator, Bool.or_eq_true, not_or] at hc'
    exact Or.inl (by simpa [isAttributeChar, hend, hc'.1, hc'.2] using hother)

/-- An attribute begins behind a separator. -/
theorem beginsAttribute {last c : Char} (hlast : isSeparator last = true) (hc : isSeparator c = false)
    (hend : c ≠ '>') (quoted : Bool) :
    ((quoted || isBlank last || last = '/') && !(isBlank c || c = '/' || c = '>')) = true := by
  rw [isSeparator] at hlast hc
  rw [Bool.or_assoc, hlast, hc, decide_eq_false hend, Bool.or_true]
  rfl

/-- What follows the name of an attribute, up to the next one. -/
theorem exists_value_then_separators (ht : ∀ c ∈ t, isInner c = true)
    (h : ∀ c ∈ t.head?, c = '=' ∨ isSeparator c = true) (d : Char) :
    ∃ value last t', t' <:+ t ∧ (∀ c ∈ value, c ∈ t) ∧ IsBetween last t' ∧
      ∀ rest, ∃ last₀ rest₀, (value? (t ++ '>' :: rest)).getD ([], d, t ++ '>' :: rest) =
          (value, last₀, rest₀) ∧ skipSeparators last₀ rest₀ = (last, t' ++ '>' :: rest) := by
  obtain ⟨value, last₀, t₀, hsuffix₀, hmem, hhead, hvalue⟩ := value?_inner ht h d
  have ht₀ : ∀ c ∈ t₀, isInner c = true := fun c hc => ht c (hsuffix₀.subset hc)
  obtain ⟨last, t', hsuffix, hbetween, hskip⟩ := skipSeparators_inner last₀ ht₀ (Or.inr hhead)
  exact ⟨value, last, t', hsuffix.trans hsuffix₀, hmem, hbetween,
    fun rest => ⟨last₀, t₀ ++ '>' :: rest, hvalue rest, hskip rest⟩⟩

theorem attributes_of_not_beginning {last c : Char} (hc : isSeparator c = true ∨ c = '>') (n : Nat)
    (rest : Text) : attributes n last (c :: rest) = ([], c :: rest) := by
  have hnone : ∀ quoted, ¬(quoted && !(isBlank c || c = '/' || c = '>')) = true := by
    rw [isSeparator] at hc
    rcases hc with hc | hc
    · simp [hc]
    · simp [hc]
  cases n with
  | zero => rfl
  | succ n => rw [attributes, if_neg (hnone _)]

/-- Attributes without quotes are read up to the end of the tag. -/
theorem attributes_inner {n : Nat} {last : Char} (hn : t.length ≤ n) (ht : ∀ c ∈ t, isInner c = true)
    (h : IsBetween last t) :
    ∃ written closed, (∀ p ∈ written, ∀ c ∈ p.2, c ∈ t) ∧
      ∀ m rest, t.length ≤ m →
        attributes m last (t ++ '>' :: rest) = (written, tagEnd closed ++ rest) := by
  -- the attributes must not depend on the bound `m`, which grows with what follows the tag, so the
  -- induction is on another bound
  induction n generalizing last t with
  | zero =>
      obtain rfl : t = [] := List.length_eq_zero_iff.1 (Nat.le_zero.1 hn)
      exact ⟨[], false, nofun, fun m rest _ => attributes_of_not_beginning (Or.inr rfl) m rest⟩
  | succ n ih =>
      rcases h with rfl | rfl | ⟨hlast, c, u, rfl, hc⟩
      · exact ⟨[], false, nofun, fun m rest _ => attributes_of_not_beginning (Or.inr rfl) m rest⟩
      · exact ⟨[], true, nofun, fun m rest _ => attributes_of_not_beginning (Or.inl rfl) m _⟩
      · obtain ⟨hcinner, hu⟩ := List.forall_mem_cons.1 ht
        have hdrop : ∀ d ∈ u.dropWhile isAttributeChar, isInner d = true :=
          fun d hd => hu d ((List.dropWhile_suffix _).subset hd)
        obtain ⟨value, last', t', hsuffix, hvalue, hbetween, hread⟩ :=
          exists_value_then_separators hdrop (head?_dropWhile_isAttributeChar hu)
            ((c :: u.takeWhile isAttributeChar).getLastD c)
        have hsuffix' : t' <:+ u := hsuffix.trans (List.dropWhile_suffix _)
        obtain ⟨written, closed, hwritten, hrest⟩ :=
          ih (Nat.le_trans hsuffix'.length_le (Nat.le_of_succ_le_succ hn))
            (fun d hd => hu d (hsuffix'.subset hd)) hbetween
        refine ⟨(lower (c :: u.takeWhile isAttributeChar), value) :: written, closed,
          fun p hp d hd => List.mem_cons_of_mem c ?_, fun m rest hm => ?_⟩
        · rcases List.mem_cons.1 hp with rfl | hp
          · exact (List.dropWhile_suffix _).subset (hvalue d hd)
          · exact hsuffix'.subset (hwritten p hp d hd)
        · obtain ⟨m, rfl⟩ : ∃ k, m = k + 1 := ⟨m - 1, by rw [List.length_cons] at hm; omega⟩
          have hm' : t'.length ≤ m := Nat.le_trans hsuffix'.length_le (Nat.le_of_succ_le_succ hm)
          obtain ⟨last₀, rest₀, hfound, hskip⟩ := hread rest
          have hspan :
              (u ++ '>' :: rest).span (fun d => !(isBlank d || d = '/' || d = '=' || d = '>')) =
                (u.takeWhile isAttributeChar, u.dropWhile isAttributeChar ++ '>' :: rest) :=
            span_append_cons rfl u rest
          rw [List.cons_append, attributes,
            if_pos (beginsAttribute hlast hc (ne_greater_of_isInner hcinner) _)]
          simp only [hspan, hfound, hskip, hrest m rest hm']

/-- The name of the element that a tag starts. -/
def tagName (w : Text) : Text := lower (w.takeWhile isTagChar)

/-- Elements whose text is not shown. -/
def isHiddenElement (name : Text) : Bool :=
  ["script", "style", "template", "rt", "rp"].contains (String.ofList name)

/-- Elements that are no links and whose text is shown. -/
def isPlainElement (name : Text) : Bool := name ≠ ['a'] && !isHiddenElement name

/-- What can stand between the signs of the tag of a plain element: it begins with a letter, and no quote
is in it. -/
def IsTagLike (w : Text) : Prop :=
  w.head?.any Char.isAlpha = true ∧ (∀ c ∈ w, isInner c = true) ∧ isPlainElement (tagName w) = true

instance (w : Text) : Decidable (IsTagLike w) := inferInstanceAs (Decidable (_ ∧ _ ∧ _))

theorem attributeValue_of_not_mem (h : '&' ∉ t) : attributeValue t = .ok t := by
  induction t with
  | nil => rw [attributeValue]
  | cons c t ih =>
      rw [List.mem_cons, not_or] at h
      rw [attributeValue, if_neg (Ne.symm h.1), ih h.2]
      rfl

theorem mapM_attributeValue {written : List (Text × Text)} (h : ∀ p ∈ written, '&' ∉ p.2) :
    written.mapM (fun (key, value) => (attributeValue value).map fun v => (key, v)) = .ok written := by
  induction written with
  | nil => rfl
  | cons p written ih =>
      rw [List.mapM_cons, ih fun q hq => h q (List.mem_cons_of_mem p hq)]
      simp only [attributeValue_of_not_mem (h p List.mem_cons_self)]
      rfl

theorem isSeparator_of_not_isTagChar {c : Char} (hinner : isInner c = true) (h : isTagChar c = false) :
    isSeparator c = true := by
  have hall : ∀ d ∈ "\t\n\r\x0c />\x00".toList, isInner d = true → isSeparator d = true := by
    decide
  rw [isTagChar, Bool.not_eq_false'] at h
  exact hall c (List.contains_iff_mem.1 h) hinner

/-- A tag without quotes is the start of an element, whatever follows it. -/
theorem startTag_inner {w : Text} (hw : ∀ c ∈ w, isInner c = true) (hand : '&' ∉ w) :
    ∃ attrs closed, ∀ rest, startTag (w ++ '>' :: rest) =
      .ok (.token (.start (tagName w) attrs closed) rest) := by
  have hdrop : ∀ c ∈ w.dropWhile isTagChar, isInner c = true :=
    fun c hc => hw c ((List.dropWhile_suffix _).subset hc)
  have hhead : ∀ c ∈ (w.dropWhile isTagChar).head?, isSeparator c = true := by
    intro c hc
    obtain ⟨hmem, hother⟩ := of_mem_head?_dropWhile hc
    exact isSeparator_of_not_isTagChar (hw c hmem) hother
  obtain ⟨last, t, hsuffix, hbetween, hskip⟩ :=
    skipSeparators_inner ((w.takeWhile isTagChar).getLastD 'a') hdrop (Or.inr hhead)
  have hsuffix' : t <:+ w := hsuffix.trans (List.dropWhile_suffix _)
  obtain ⟨written, closed, hwritten, hattributes⟩ :=
    attributes_inner (Nat.le_refl _) (fun c hc => hw c (hsuffix'.subset hc)) hbetween
  have hvalues : written.mapM (fun (key, value) => (attributeValue value).map fun v => (key, v)) =
      .ok written :=
    mapM_attributeValue fun p hp hmem => hand (hsuffix'.subset (hwritten p hp _ hmem))
  refine ⟨written, closed, fun rest => ?_⟩
  have hlength : t.length ≤ (t ++ '>' :: rest).length := by
    rw [List.length_append]
    omega
  rw [startTag, span_append_cons (by decide)]
  simp only [hskip, hattributes _ rest hlength, hvalues]
  cases closed with
  | false => rfl
  | true => rfl

/-- Characters that begin a piece of markup behind a less-than sign. -/
def opensMarkup (c : Char) : Bool := c.isAlpha || c = '/' || c = '!' || c = '?'

theorem piece_cons {c : Char} (hslash : c ≠ '/') (hbang : c ≠ '!') (hquestion : c ≠ '?') (t : Text) :
    piece (c :: t) =
      if c.isAlpha then startTag (c :: t) else .ok (.token (.text ['<']) (c :: t)) := by
  rw [piece]
  · exact hslash
  · exact hbang
  · exact hquestion

theorem piece_of_isAlpha {c : Char} (hc : c.isAlpha = true) (t : Text) :
    piece (c :: t) = startTag (c :: t) := by
  rw [piece_cons _ _ _ t, if_pos hc]
  all_goals
    rintro rfl
    exact absurd hc (by decide)

theorem piece_of_not_opensMarkup {c : Char} (hc : opensMarkup c = false) (t : Text) :
    piece (c :: t) = .ok (.token (.text ['<']) (c :: t)) := by
  simp only [opensMarkup, Bool.or_eq_false_iff, decide_eq_false_iff_not] at hc
  obtain ⟨⟨⟨halpha, hslash⟩, hbang⟩, hquestion⟩ := hc
  rw [piece_cons hslash hbang hquestion, halpha]
  rfl

theorem rawAfter_start {name : Text} (h : isPlainElement name = true) (attrs : List (Text × Text))
    (closed : Bool) : rawAfter (.start name attrs closed) = none := by
  have hscript : name ≠ "script".toList := by
    rintro rfl
    exact absurd h (by decide)
  have hstyle : name ≠ "style".toList := by
    rintro rfl
    exact absurd h (by decide)
  have hraw : ¬(name = "script".toList || name = "style".toList) = true := by
    rw [decide_eq_false hscript, decide_eq_false hstyle]
    exact Bool.false_ne_true
  cases closed with
  | false => exact if_neg hraw
  | true => rfl

variable {p q : Page}

/-- A tag without quotes is read as the start of an element. -/
theorem exists_reads_tag {w : Text} (h : IsTagLike w) (hand : '&' ∉ w) :
    ∃ attrs closed, ∀ p, Reads p ('<' :: (w ++ ['>'])) (p.step (.start (tagName w) attrs closed)) := by
  obtain ⟨hletter, hinner, hplain⟩ := h
  obtain ⟨attrs, closed, hstart⟩ := startTag_inner hinner hand
  refine ⟨attrs, closed, fun p => reads_tag p (fun rest => ?_) (rawAfter_start hplain attrs closed)⟩
  rw [← hstart rest, List.append_assoc]
  cases w with
  | nil => cases hletter
  | cons c w => exact piece_of_isAlpha hletter _

/-- Text in which no less-than sign begins a piece of markup. -/
def IsLoose (t : Text) : Prop := t.IsChain fun b c => ¬(b = '<' ∧ opensMarkup c = true)

instance (t : Text) : Decidable (IsLoose t) := inferInstanceAs (Decidable (List.IsChain _ _))

theorem Reads.less {c : Char} (h : Reads (p.step (.text ['<'])) (c :: t) q)
    (hc : opensMarkup c = false) : Reads p ('<' :: c :: t) q := by
  intro n rest hn
  rw [List.length_cons] at hn
  obtain ⟨k, rfl⟩ : ∃ k, n = k + 1 := ⟨n - 1, by omega⟩
  obtain ⟨m, hm, hread⟩ := h k rest (by omega)
  refine ⟨m, hm, ?_⟩
  rw [← hread]
  have hscan : scan (k + 1) false none ('<' :: (c :: t ++ rest)) =
      ofText [] <$> (piece (c :: t ++ rest) >>= _) := rfl
  rw [List.cons_append, readFrom, hscan, map_foldl_ofText, step_text_nil, List.cons_append,
    piece_of_not_opensMarkup hc]
  exact map_foldl_cons p _ _

/-- Loose text before a less-than sign is text. -/
theorem reads_loose {s : Text} (hs : IsLoose s) (hand : '&' ∉ s)
    (h : Reads (p.step (.text s)) ('<' :: t) q) : Reads p (s ++ '<' :: t) q := by
  induction s generalizing p with
  | nil => rwa [step_text_nil] at h
  | cons c s ih =>
      obtain ⟨hnext, hrest⟩ := List.isChain_cons.1 hs
      rw [List.mem_cons, not_or] at hand
      have hstep : p.step (.text (c :: s)) = (p.step (.text [c])).step (.text s) :=
        step_text_append p [c] s
      rw [hstep] at h
      have hreads := ih hrest hand.2 h
      by_cases hless : c = '<'
      · obtain ⟨d, u, hd, hopens⟩ : ∃ d u, s ++ '<' :: t = d :: u ∧ opensMarkup d = false := by
          cases s with
          | nil => exact ⟨'<', t, rfl, rfl⟩
          | cons d s =>
              exact ⟨d, s ++ '<' :: t, rfl,
                Bool.eq_false_iff.2 fun hopens => hnext d rfl ⟨hless, hopens⟩⟩
        rw [List.cons_append, hless, hd]
        rw [hless, hd] at hreads
        exact hreads.less hopens
      · exact (reads_char (by simp [hless, Ne.symm hand.1]) p).append hreads

end AgendaLinks.Markup
