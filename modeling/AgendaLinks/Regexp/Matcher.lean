import AgendaLinks.Regexp.Syntax

/-!
Matching by trying: a tree is given what comes after it as a continuation and offers it, one after the
other, the states in which a match of the tree can end. The order of the offers is the order of
preference, so the first one that the continuation takes decides. A repetition that has matched
nothing at a place is not tried there once more, so the places left bound the number of its rounds.
-/

namespace AgendaLinks.Regexp

/-- The place in the text that has been reached, and the spans of the groups that took part. -/
structure State where
  place : Nat
  groups : List (Nat × Nat × Nat)

/-- What is done with a state in which a match ends. -/
abbrev Continuation := State → Option State

/-- What a tree does with a continuation and a state in which its match begins. -/
abbrev Step := Continuation → State → Option State

namespace Place

private def wordBefore (text : Array Char) (ascii : Bool) (i : Nat) : Bool :=
  i != 0 && (text[i - 1]?).any fun c => CharClass.word.contains ascii c

private def wordAfter (text : Array Char) (ascii : Bool) (i : Nat) : Bool :=
  (text[i]?).any fun c => CharClass.word.contains ascii c

/-- Whether a place of a text is of a kind. An empty text has no edges, and no places off an edge. -/
def holds (text : Array Char) (i : Nat) : Place → Bool
  | textStart => i == 0
  | textEnd => i == text.size
  | lastLineEnd => i == text.size || (i + 1 == text.size && text[i]? == some '\n')
  | lineStart => i == 0 || text[i - 1]? == some '\n'
  | lineEnd => i == text.size || text[i]? == some '\n'
  | wordEdge ascii => !text.isEmpty && wordBefore text ascii i != wordAfter text ascii i
  | noWordEdge ascii => !text.isEmpty && wordBefore text ascii i == wordAfter text ascii i

end Place

/-- At most `n` rounds of a step, as many as possible first; a round at the place where the one before
it began is not tried. -/
private def greedyRounds (body : Step) (most : Option Nat) (k : Continuation) :
    Nat → Nat → Option Nat → State → Option State
  | 0, _, _, s => k s
  | n + 1, count, began, s =>
    if (most.all (count < ·)) && began != some s.place then
      body (greedyRounds body most k n (count + 1) (some s.place)) s <|> k s
    else k s

/-- At most `n` rounds of a step, as few as possible first. -/
private def lazyRounds (body : Step) (most : Option Nat) (k : Continuation) :
    Nat → Nat → Option Nat → State → Option State
  | 0, _, _, s => k s
  | n + 1, count, began, s =>
    k s <|>
      if (most.all (count < ·)) && began != some s.place then
        body (lazyRounds body most k n (count + 1) (some s.place)) s
      else none

/-- Rounds of a step, each as it fits first, until one does not fit or matches nothing. -/
private def firmRounds (body : Step) (most : Option Nat) : Nat → Nat → State → State
  | 0, _, s => s
  | n + 1, count, s =>
    if most.all (count < ·) then
      match body some s with
      | some s' => if s'.place = s.place then s' else firmRounds body most n (count + 1) s'
      | none => s
    else s

/-- Exactly `n` rounds of a step, each as it fits first. -/
private def firmLeast (body : Step) : Nat → State → Option State
  | 0, s => some s
  | n + 1, s => (body some s).bind (firmLeast body n)

/-- Exactly `n` rounds of a step. -/
private def rounds (body : Step) (k : Continuation) : Nat → State → Option State
  | 0, s => k s
  | n + 1, s => body (rounds body k n) s

/-- The places up to which single characters fit, from a place on, the last first. -/
private def run (fits : Char → Bool) (text : Array Char) :
    Nat → Nat → List Nat → List Nat
  | 0, i, done => i :: done
  | n + 1, i, done =>
    if (text[i]?).any fits then run fits text n (i + 1) (i :: done) else i :: done

private def sameSpan (text : Array Char) (rule : CaseRule) : Nat → Nat → Nat → Bool
  | 0, _, _ => true
  | n + 1, i, j =>
    match text[i]?, text[j]? with
    | some c, some d =>
      (match rule with
        | .exact => c == d
        | .ascii => c.toLower == d.toLower
        | .unicode => Text.smallChar c == Text.smallChar d) && sameSpan text rule n (i + 1) (j + 1)
    | _, _ => false

/-- What a tree does in a text. -/
def Tree.step (text : Array Char) : Tree → Step
  | .empty, k, s => k s
  | .symbol which rule ascii, k, s =>
    match text[s.place]? with
    | some c => if which.accepts rule ascii c then k { s with place := s.place + 1 } else none
    | none => none
  | .place p, k, s => if p.holds text s.place then k s else none
  | .seq a b, k, s => a.step text (b.step text k) s
  | .either a b, k, s => a.step text k s <|> b.step text k s
  | .capture g a, k, s =>
    a.step text (fun s' => k { s' with groups := (g, s.place, s'.place) :: s'.groups }) s
  | .again g rule, k, s =>
    match s.groups.lookup g with
    | some (first, last) =>
      let width := last - first
      if sameSpan text rule width first s.place then k { s with place := s.place + width } else none
    | none => none
  | .given g yes no, k, s =>
    if (s.groups.lookup g).isSome then yes.step text k s else no.step text k s
  | .ahead negated a, k, s =>
    match a.step text some s with
    | some s' => if negated then none else k { s' with place := s.place }
    | none => if negated then k s else none
  | .behind negated width a, k, s =>
    let found := if width.least ≤ s.place then
      a.step text some { s with place := s.place - width.least } else none
    match found with
    | some s' => if negated then none else k { s' with place := s.place }
    | none => if negated then k s else none
  | .atomic a, k, s => (a.step text some s).bind k
  | .repeated greed least most a, k, s =>
    let left := text.size - s.place + 2
    match greed, a with
    | .greedy, .symbol which rule ascii =>
      let limit := match most with
        | some n => min n (text.size - s.place)
        | none => text.size - s.place
      let places := run (which.accepts rule ascii) text limit s.place []
      (places.take (places.length - least)).findSome? fun i => k { s with place := i }
    | .greedy, a =>
      rounds (a.step text) (greedyRounds (a.step text) most k left least none) least s
    | .lazy, a =>
      rounds (a.step text) (lazyRounds (a.step text) most k left least none) least s
    | .possessive, a =>
      (firmLeast (a.step text) least s).bind fun s =>
        k (firmRounds (a.step text) most left least s)

/-- The first match that begins at a place or at one of the next ones. -/
private def searchFrom (text : Array Char) (tree : Tree) : Nat → Nat → Option State
  | 0, i => tree.step text some ⟨i, []⟩
  | n + 1, i => tree.step text some ⟨i, []⟩ <|> searchFrom text tree n (i + 1)

/-- Whether some part of a text matches. -/
def occursIn (r : Regexp) (t : Text) : Bool :=
  (searchFrom t.toArray r.tree t.length 0).isSome

end AgendaLinks.Regexp
