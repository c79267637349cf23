import AgendaLinks.Regexp.Symbol

/-!
The tree of a regular expression. The options that are in force where a part was written are kept
with it, so that a tree has its meaning by itself.
-/

namespace AgendaLinks

namespace Regexp

/-- Places between characters. -/
inductive Place where
  | textStart
  | textEnd
  /-- The end of the text, or before a line feed that ends it. -/
  | lastLineEnd
  | lineStart
  | lineEnd
  | wordEdge (ascii : Bool)
  | noWordEdge (ascii : Bool)
  deriving DecidableEq, Repr

/-- How a repetition gives way when what follows it does not fit. -/
inductive Greed where
  /-- As often as possible at first. -/
  | greedy
  /-- As rarely as possible at first. -/
  | lazy
  /-- As often as possible, and never again more rarely. -/
  | possessive
  deriving DecidableEq, Repr

/-- Least and greatest number of characters; nothing is counted beyond `2 ^ 64`. -/
structure Width where
  least : Nat
  most : Nat
  deriving DecidableEq, Repr, Inhabited

namespace Width

private def bounded (least most : Nat) : Width := ⟨min least (2 ^ 64), min most (2 ^ 64)⟩

def add (v w : Width) : Width := bounded (v.least + w.least) (v.most + w.most)

def union (v w : Width) : Width := ⟨min v.least w.least, max v.most w.most⟩

def times (w : Width) (least : Nat) (most : Option Nat) : Width :=
  bounded (w.least * least) <| match most with
    | some n => w.most * n
    | none => if w.most = 0 then 0 else 2 ^ 64

end Width

/-- A regular expression. -/
inductive Tree where
  | empty
  | symbol (symbol : Symbol) (rule : CaseRule) (ascii : Bool)
  | place (place : Place)
  | seq (first second : Tree)
  | either (first second : Tree)
  | capture (group : Nat) (body : Tree)
  /-- The text of a group again. -/
  | again (group : Nat) (rule : CaseRule)
  /-- One of two parts, by whether a group took part in the match. -/
  | given (group : Nat) (yes no : Tree)
  /-- A part that has to fit here, or must not, without being consumed. -/
  | ahead (negated : Bool) (body : Tree)
  /-- A part of a known width that has to fit before this place, or must not. -/
  | behind (negated : Bool) (width : Width) (body : Tree)
  /-- A part that is never tried in another way once it has fitted. -/
  | atomic (body : Tree)
  | repeated (greed : Greed) (least : Nat) (most : Option Nat) (body : Tree)
  deriving DecidableEq, Repr, Inhabited

/-- The width of what a tree can match, given the widths of the groups. -/
def Tree.width (groups : Nat → Width) : Tree → Width
  | .empty | .place _ | .ahead .. | .behind .. => ⟨0, 0⟩
  | .symbol .. => ⟨1, 1⟩
  | .seq a b => (a.width groups).add (b.width groups)
  | .either a b => (a.width groups).union (b.width groups)
  | .capture _ a | .atomic a => a.width groups
  | .again g _ => groups g
  | .given _ a b => (a.width groups).union (b.width groups)
  | .repeated _ least most a => (a.width groups).times least most

end Regexp

/-- A regular expression with its text. -/
structure Regexp where
  source : Text
  tree : Regexp.Tree
  deriving DecidableEq, Repr

end AgendaLinks
