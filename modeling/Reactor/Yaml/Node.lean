import Reactor.Yaml.Token

namespace Reactor.Yaml

inductive Node
  | scalar (tag : Option (List Char)) (isPlain : Bool) (text : List Char)
  | sequence (tag : Option (List Char)) (items : List Node)
  | mapping (tag : Option (List Char)) (entries : List (Node × Node))
  | alias (number : Nat)

/-- A node with an anchor; `order` tells which nodes with anchors begin before it. -/
structure Anchored where
  number : Nat
  order : Nat
  node : Node

/-- `size` counts scalars and aliases once and collections twice. -/
structure Document where
  root : Node
  anchored : List Anchored
  size : Nat

/-- What a document's reader knows: the tokens left, the tags' prefixes, the numbers of anchors by
name, the last one first, and what it has read. -/
structure Reader where
  tokens : List Token
  tagPrefixes : List (List Char × List Char)
  numbers : List (List Char × Nat)
  names : Nat
  begun : Nat
  anchored : List Anchored
  size : Nat

abbrev Read := StateT Reader (Except Malformed)

namespace Reader

def ofTokens (tokens : List Token) : Reader := ⟨tokens, [], [], 0, 0, [], 0⟩

def peek : Read Token := return (← get).tokens.headD .streamEnd

def skip : Read Unit := modify fun r ↦ { r with tokens := r.tokens.tail }

def accept (t : Token) : Read Bool := do
  if (← peek) = t then
    skip
    return true
  else return false

def count (n : Nat) : Read Unit := modify fun r ↦ { r with size := r.size + n }

/-- An alias refers to the number that its name had when it was read; a number that is given twice
means the node that begins last. -/
def declare (name : List Char) : Read (Nat × Nat) := do
  let r ← get
  let isKnown := (r.numbers.lookup name).isSome
  set { r with
    numbers := (name, r.names) :: r.numbers
    names := if isKnown then r.names else r.names + 1
    begun := r.begun + 1 }
  return (r.names, r.begun)

def record (anchor : Option (Nat × Nat)) (node : Node) : Read Node := do
  if let some (number, order) := anchor then
    modify fun r ↦ { r with anchored := ⟨number, order, node⟩ :: r.anchored }
  return node

def emptyScalar : Read Node := do
  count 1
  return .scalar none true []

def takeAnchor : Read (Option (List Char)) := do
  match ← peek with
  | .anchor name =>
    skip
    return some name
  | _ => return none

def takeTag : Read (Option (List Char)) := do
  match ← peek with
  | .tag handle suffix =>
    skip
    if handle.isEmpty then return some suffix
    match (← get).tagPrefixes.lookup handle with
    | some start => return some (start ++ suffix)
    | none => throw .tag
  | _ => return none

def takeProperties : Read (Option (List Char) × Option (List Char)) := do
  match ← takeAnchor with
  | some name => return (some name, ← takeTag)
  | none =>
    let tag ← takeTag
    return (← if tag.isSome then takeAnchor else pure none, tag)

/-- Where a node is read: whether it may be a block collection, and whether a sequence may stand at
the indent of the mapping around it. -/
structure Place where
  isBlock : Bool
  isIndentless : Bool

def isOneOf (ts : List Token) : Read Bool := return ts.contains (← peek)

mutual

def node : Nat → Place → Read Node
  | 0, _ => throw .tooDeep
  | fuel + 1, place => do
    if let .alias name := ← peek then
      skip
      count 1
      match (← get).numbers.lookup name with
      | some number => return .alias number
      | none => throw .unknownAlias
    let (name, tag) ← takeProperties
    let anchor ← name.mapM declare
    match ← peek with
    | .blockEntry =>
      if place.isIndentless then
        count 2
        record anchor (.sequence tag (← indentlessItems fuel))
      else missing anchor tag
    | .scalar text isPlain =>
      skip
      count 1
      record anchor (.scalar tag isPlain text)
    | .flowSequenceStart =>
      skip
      count 2
      record anchor (.sequence tag (← flowItems fuel true))
    | .flowMappingStart =>
      skip
      count 2
      record anchor (.mapping tag (← flowEntries fuel true))
    | .blockSequenceStart =>
      if place.isBlock then
        skip
        count 2
        record anchor (.sequence tag (← blockItems fuel))
      else missing anchor tag
    | .blockMappingStart =>
      if place.isBlock then
        skip
        count 2
        record anchor (.mapping tag (← blockEntries fuel))
      else missing anchor tag
    | _ => missing anchor tag

def missing (anchor : Option (Nat × Nat)) (tag : Option (List Char)) : Read Node := do
  if anchor.isNone && tag.isNone then throw .grammar
  count 1
  record anchor (.scalar tag true [])

/-- A node, or an empty scalar where one of the tokens shows that there is none. -/
def nodeUnless : Nat → List Token → Place → Read Node
  | 0, _, _ => throw .tooDeep
  | fuel + 1, ends, place => do
    if ← isOneOf ends then emptyScalar else node fuel place

def blockItems : Nat → Read (List Node)
  | 0 => throw .tooDeep
  | fuel + 1 => do
    if ← accept .blockEntry then
      let item ← nodeUnless fuel [.blockEntry, .blockEnd] ⟨true, false⟩
      return item :: (← blockItems fuel)
    else if ← accept .blockEnd then return []
    else throw .grammar

def indentlessItems : Nat → Read (List Node)
  | 0 => throw .tooDeep
  | fuel + 1 => do
    if ← accept .blockEntry then
      let item ← nodeUnless fuel [.blockEntry, .key, .value, .blockEnd] ⟨true, false⟩
      return item :: (← indentlessItems fuel)
    else return []

def blockEntries : Nat → Read (List (Node × Node))
  | 0 => throw .tooDeep
  | fuel + 1 => do
    if ← accept .key then
      let ends := [.key, .value, .blockEnd]
      let key ← nodeUnless fuel ends ⟨true, true⟩
      let value ← if ← accept .value then nodeUnless fuel ends ⟨true, true⟩ else emptyScalar
      return (key, value) :: (← blockEntries fuel)
    else if ← accept .blockEnd then return []
    else throw .grammar

/-- A mapping of one entry inside a flow sequence. Where its key is missing, the token that shows
so is taken with it. -/
def singleEntry : Nat → Read Node
  | 0 => throw .tooDeep
  | fuel + 1 => do
    count 2
    let key ← if ← isOneOf [.value, .flowEntry, .flowSequenceEnd] then
        skip
        emptyScalar
      else node fuel ⟨false, false⟩
    let value ← if ← accept .value then
        nodeUnless fuel [.flowEntry, .flowSequenceEnd] ⟨false, false⟩
      else emptyScalar
    return .mapping none [(key, value)]

def flowItems : Nat → Bool → Read (List Node)
  | 0, _ => throw .tooDeep
  | fuel + 1, isFirst => do
    if ← accept .flowSequenceEnd then return []
    if !isFirst then
      if !(← accept .flowEntry) then throw .grammar
    if ← accept .flowSequenceEnd then return []
    let item ← if ← accept .key then singleEntry fuel else node fuel ⟨false, false⟩
    return item :: (← flowItems fuel false)

def flowEntries : Nat → Bool → Read (List (Node × Node))
  | 0, _ => throw .tooDeep
  | fuel + 1, isFirst => do
    if ← accept .flowMappingEnd then return []
    if !isFirst then
      if !(← accept .flowEntry) then throw .grammar
    if ← accept .flowMappingEnd then return []
    let ends := [.flowEntry, .flowMappingEnd]
    let entry ← if ← accept .key then do
        let key ← nodeUnless fuel (.value :: ends) ⟨false, false⟩
        let value ← if ← accept .value then nodeUnless fuel ends ⟨false, false⟩ else emptyScalar
        pure (key, value)
      else do
        let key ← node fuel ⟨false, false⟩
        pure (key, ← emptyScalar)
    return entry :: (← flowEntries fuel false)

end

def standardPrefixes : List (List Char × List Char) :=
  [(['!'], ['!']), (['!', '!'], "tag:yaml.org,2002:".toList)]

/-- The directives before a document: at most one version, of the first edition or the second, and
one prefix for each handle. -/
def directives : Nat → Bool → List (List Char × List Char) →
    Read (List (List Char × List Char))
  | 0, _, _ => throw .directive
  | fuel + 1, hasVersion, prefixes => do
    match ← peek with
    | .version major minor =>
      if hasVersion || major ≠ 1 || (minor ≠ 1 && minor ≠ 2) then throw .directive
      skip
      directives fuel true prefixes
    | .tagPrefix handle start =>
      if (prefixes.lookup handle).isSome then throw .directive
      skip
      directives fuel hasVersion (prefixes ++ [(handle, start)])
    | _ => return prefixes

def skipDocumentEnds : Nat → Read Unit
  | 0 => return
  | fuel + 1 => do
    if ← accept .documentEnd then skipDocumentEnds fuel

def isDirective : Token → Bool
  | .version .. | .tagPrefix .. => true
  | _ => false

def content (fuel : Nat) (isEmpty : Bool) (prefixes : List (List Char × List Char)) :
    Read Document := do
  modify fun r ↦ { Reader.ofTokens r.tokens with tagPrefixes := prefixes ++ standardPrefixes }
  let root ← if isEmpty then emptyScalar else node fuel ⟨true, false⟩
  let _ ← accept .documentEnd
  let r ← get
  return ⟨root, r.anchored, r.size⟩

/-- The next document; only the first one may begin without a marker. -/
def document? (fuel : Nat) (isFirst : Bool) : Read (Option Document) := do
  if !isFirst then skipDocumentEnds fuel
  let token ← peek
  if token = .streamEnd then return none
  if isFirst && token ≠ .documentStart && !isDirective token then
    return some (← content fuel false [])
  let prefixes ← directives fuel false []
  if !(← accept .documentStart) then throw .document
  let token ← peek
  let isEmpty := isDirective token || token = .documentStart || token = .documentEnd
    || token = .streamEnd
  return some (← content fuel isEmpty prefixes)

def documents : Nat → Bool → Read (List Document)
  | 0, _ => throw .document
  | fuel + 1, isFirst => do
    match ← document? fuel isFirst with
    | none => return []
    | some d => return d :: (← documents fuel false)

end Reader

/-- The documents of a stream. Every step of the reader takes a token or is followed by one that
does, so three for each token suffice. -/
def Document.readAll (cs : List Char) : Except Malformed (List Document) := do
  let tokens ← Token.scan cs
  (Reader.documents (3 * tokens.length + 8) true).run' (Reader.ofTokens tokens)

def Document.target? (d : Document) (number : Nat) : Option Node :=
  ((d.anchored.filter (·.number == number)).foldl
    (fun best a ↦ match best with
      | some b => if b.order < a.order then some a else some b
      | none => some a) none).map Anchored.node

end Reactor.Yaml
