import AgendaLinks.Yaml.Tag
import AgendaLinks.Yaml.Token

/-!
The tree of a document. Where a name repeats a part of the document, the tree holds that part again;
inside the part itself it holds an empty collection. A mapping is kept with the entries that it has after it
has taken over those of others.
-/

namespace AgendaLinks.Yaml

/-- A part of a document. -/
inductive Node where
  | scalar (tag : Tag) (text : Text)
  | list (tag : Tag) (items : List Node)
  /-- A mapping with its own entries, and all of them if what it takes over are mappings. -/
  | mapping (tag : Tag) (own : List (Node × Node)) (sound : Bool) (all : List (Node × Node))

namespace Node

def tag : Node → Tag
  | scalar tag _ | list tag _ | mapping tag .. => tag

private def null : Node := scalar .null []

/-- The entries of a mapping that can be taken over. -/
private def entries? : Node → Option (List (Node × Node))
  | mapping _ _ true all => some all
  | _ => none

/-- The entries that a value stands for in a mapping that takes it over; of several mappings the first
one counts most, so it stands last. -/
private def merged? : Node → Option (List (Node × Node))
  | list _ items => do return (← items.mapM entries?).reverse.flatten
  | v => v.entries?

/-- The special key for a single scalar is an ordinary key where the mapping stays one. -/
private def asKey : Node → Node
  | scalar .value t => scalar .text t
  | list .value items => list .text items
  | mapping .value own sound all => mapping .text own sound all
  | k => k

private def takeOver : List (Node × Node) → Option (List (Node × Node) × List (Node × Node))
  | [] => some ([], [])
  | (k, v) :: rest => do
    if k.tag = .merge then
      let found ← v.merged?
      let (taken, own) ← takeOver rest
      return (found ++ taken, own)
    else
      let (taken, own) ← takeOver rest
      return (taken, (k.asKey, v) :: own)

/-- The mapping with given entries. Entries taken over stand before its own, so its own count more. -/
def ofEntries (tag : Tag) (own : List (Node × Node)) : Node :=
  match takeOver own with
  | some (taken, rest) => mapping tag own true (taken ++ rest)
  | none => mapping tag own false []

end Node

/-! ### Reading -/

/-- What is left to read, and what names stand for. A name of a collection that is not complete yet
stands for its kind alone. -/
private structure Parsing where
  tokens : List Token
  fault : Option Fault
  handles : List (Text × Text)
  names : List (Text × Node) := []

private abbrev Parser := StateT Parsing (Except Fault)

private def reject {α : Type} : Parser α := throw .malformed

/-- The next token, or none at the end of the text. -/
private def peek : Parser (Option Token) := do
  let s ← get
  match s.tokens, s.fault with
  | t :: _, _ => return some t
  | [], none => return none
  | [], some fault => throw fault

private def skip : Parser Unit := modify fun s => { s with tokens := s.tokens.tail }

/-- Whether the next token is a given one, which is then taken. -/
private def takes (t : Token) : Parser Bool := do
  if (← peek) = some t then
    skip
    return true
  return false

private def nextIs (ts : List Token) : Parser Bool := do
  match ← peek with
  | some t => return ts.contains t
  | none => return false

private def takeAnchor : Parser (Option Text) := do
  match ← peek with
  | some (.anchor name) =>
    skip
    return some name
  | _ => return none

private def takeTag : Parser (Option (Option Text × Text)) := do
  match ← peek with
  | some (.tag handle suffix) =>
    skip
    return some (handle, suffix)
  | _ => return none

/-- The name and the tag before a node, in either order. -/
private def properties : Parser (Option Text × Option (Option Text × Text)) := do
  match ← takeAnchor with
  | some name => return (some name, ← takeTag)
  | none =>
    match ← takeTag with
    | some tag => return (← takeAnchor, some tag)
    | none => return (none, none)

/-- A tag in full. The exclamation mark alone is no tag, but asks for the kind by the text. -/
private def fullTag : Option (Option Text × Text) → Parser (Option Text)
  | none => return none
  | some (none, suffix) => return some suffix
  | some (some handle, suffix) => do
    match (← get).handles.lookup handle with
    | some start => return some (start ++ suffix)
    | none => reject

private def nameNode (name : Option Text) (n : Node) : Parser Unit :=
  match name with
  | some name => modify fun s => { s with names := (name, n) :: s.names }
  | none => return ()

private def newName (name : Option Text) : Parser Unit := do
  match name with
  | some name => if ((← get).names.lookup name).isSome then reject
  | none => return ()

private def kindOf (tag : Option Text) (default : Tag) : Tag :=
  match tag with
  | none | some ['!'] => default
  | some uri => .ofUri uri

/-- The kind of a scalar: without a tag, marks make it a text. -/
private def scalarKind (tag : Option Text) (t : Text) (plain : Bool) : Tag :=
  match tag with
  | none => if plain then .ofText t else .text
  | some ['!'] => .ofText t
  | some uri => .ofUri uri

/-- The places in which a node can stand: in brackets, on lines of its own, or in a mapping on lines of
its own, where the entries of a list need not be indented. -/
private inductive Setting where
  | flow
  | block
  | value
  deriving DecidableEq

/-- The ways in which nodes follow each other in a collection. -/
private inductive Series where
  | block
  | indentless
  | blockMapping
  | flow (first : Bool)
  | flowMapping (first : Bool)

mutual

/-- A node of a setting; the number bounds the steps. -/
private def node : Nat → Setting → Parser Node
  | 0, _ => reject
  | steps + 1, setting => do
    match ← peek with
    | some (.again name) =>
      skip
      match (← get).names.lookup name with
      | some n => return n
      | none => reject
    | _ =>
      let (name, tag) ← properties
      let marked := name.isSome || tag.isSome
      let tag ← fullTag tag
      let collection (kind : Tag) (series : Series) (taken : Bool) : Parser Node := do
        newName name
        if taken then skip
        let kind := kindOf tag kind
        let isMapping := match series with
          | .blockMapping | .flowMapping _ => true
          | _ => false
        nameNode name (if isMapping then .ofEntries kind [] else .list kind [])
        let n ← if isMapping then Node.ofEntries kind <$> entries steps series
          else Node.list kind <$> items steps series
        nameNode name n
        return n
      match ← peek with
      | some .blockEntry =>
        if setting = .value then collection .list .indentless false
        else if marked then empty name tag
        else reject
      | some (.scalar t plain) =>
        newName name
        skip
        let n := Node.scalar (scalarKind tag t plain) t
        nameNode name n
        return n
      | some .flowSequence => collection .list (.flow true) true
      | some .flowMapping => collection .mapping (.flowMapping true) true
      | some .blockSequence =>
        if setting = .flow then (if marked then empty name tag else reject)
        else collection .list .block true
      | some .blockMapping =>
        if setting = .flow then (if marked then empty name tag else reject)
        else collection .mapping .blockMapping true
      | _ => if marked then empty name tag else reject
where
  /-- The empty scalar with a name or a tag. -/
  empty (name tag : Option Text) : Parser Node := do
    newName name
    let n := Node.scalar (scalarKind tag [] true) []
    nameNode name n
    return n

/-- A node, or null before one of some tokens and at the end. -/
private def nodeUnless : Nat → Setting → List Token → Parser Node
  | 0, _, _ => reject
  | steps + 1, setting, stops => do
    if ← nextIs stops then return .null else node steps setting

/-- The items of a list up to its end. -/
private def items : Nat → Series → Parser (List Node)
  | 0, _ => reject
  | steps + 1, series => do
    match series with
    | .block =>
      if ← takes .blockEntry then
        let n ← nodeUnless steps .block [.blockEntry, .blockEnd]
        return n :: (← items steps series)
      if ← takes .blockEnd then return []
      reject
    | .indentless =>
      if ← takes .blockEntry then
        let n ← nodeUnless steps .block [.blockEntry, .key, .value, .blockEnd]
        return n :: (← items steps series)
      return []
    | .flow first =>
      if ← takes .flowSequenceEnd then return []
      if !first then
        if !(← takes .flowEntry) then reject
        if ← takes .flowSequenceEnd then return []
      let n ← if ← takes .key then
          let key ← nodeUnless steps .flow [.value, .flowEntry, .flowSequenceEnd]
          let value ← if ← takes .value then nodeUnless steps .flow [.flowEntry, .flowSequenceEnd]
            else pure .null
          pure (Node.ofEntries .mapping [(key, value)])
        else node steps .flow
      return n :: (← items steps (.flow false))
    | _ => reject

/-- The entries of a mapping up to its end. -/
private def entries : Nat → Series → Parser (List (Node × Node))
  | 0, _ => reject
  | steps + 1, series => do
    match series with
    | .blockMapping =>
      let stops := [Token.key, .value, .blockEnd]
      if ← takes .key then
        let key ← nodeUnless steps .value stops
        let value ← if ← takes .value then nodeUnless steps .value stops else pure .null
        return (key, value) :: (← entries steps series)
      if ← takes .blockEnd then return []
      reject
    | .flowMapping first =>
      if ← takes .flowMappingEnd then return []
      if !first then
        if !(← takes .flowEntry) then reject
        if ← takes .flowMappingEnd then return []
      let (key, value) ← if ← takes .key then
          let key ← nodeUnless steps .flow [.value, .flowEntry, .flowMappingEnd]
          let value ← if ← takes .value then nodeUnless steps .flow [.flowEntry, .flowMappingEnd]
            else pure .null
          pure (key, value)
        else
          let key ← node steps .flow
          let _ ← peek
          pure (key, .null)
      return (key, value) :: (← entries steps (.flowMapping false))
    | _ => reject

end

/-! ### Documents -/

private def knownHandles : List (Text × Text) := [(['!'], ['!']), (['!', '!'], Tag.family)]

/-- The directives before a document: at most one version, which is 1, and one meaning for a handle. -/
private def directives : Nat → Bool → List (Text × Text) → Parser (List (Text × Text))
  | 0, _, _ => reject
  | steps + 1, versioned, handles => do
    match ← peek with
    | some (.directive d) =>
      skip
      match d with
      | .version major =>
        if versioned ∨ major ≠ 1 then reject
        directives steps true handles
      | .handle handle start =>
        if (handles.lookup handle).isSome then reject
        directives steps versioned ((handle, start) :: handles)
      | .other => directives steps versioned handles
    | _ => return handles

private def skipDocumentEnds : Nat → Parser Unit
  | 0 => return ()
  | steps + 1 => do
    if ← takes .documentEnd then skipDocumentEnds steps

private def documentBody (steps : Nat) : Parser Node := do
  match ← peek with
  | none | some (.directive _) | some .documentStart | some .documentEnd => return .null
  | _ => node steps .block

/-- The only document of a text, if there is one. -/
private def document (steps : Nat) : Parser (Option Node) := do
  let explicit : Bool ← match ← peek with
    | none => return none
    | some (.directive _) | some .documentStart => pure true
    | _ => pure false
  if explicit then
    let handles ← directives steps false []
    modify fun s => { s with handles := handles ++ knownHandles }
    if !(← takes .documentStart) then reject
  let n ← if explicit then documentBody steps else node steps .block
  let _ ← takes .documentEnd
  skipDocumentEnds steps
  match ← peek with
  | none => return some n
  | some _ =>
    -- A second document has a head of its own, in which a fault may come first.
    let _ ← directives steps false []
    reject

/-- The tree of a text, if it has a document. -/
def Node.ofTokens? (ts : Tokens) : Except Fault (Option Node) :=
  (document (4 * ts.list.length + 8)).run' ⟨ts.list, ts.fault, knownHandles, []⟩

end AgendaLinks.Yaml
