import StickerPages.Yaml.Token

/-!
# Nodes

The tree of a YAML text: texts, sequences and mappings, each perhaps with a tag. Names are gone: an
alias has become the node it stands for.

`Node.ofTokens?` reads a text of one document, or of none. A node that is left out is an empty plain
text. Inside brackets a single pair may stand as an item, for a mapping of that pair.
-/

namespace StickerPages.Yaml

/-- A node of the tree. A plain text is one without quote marks; only such a text can be anything but
a text. -/
inductive Node where
  | text (tag : Option String) (isPlain : Bool) (content : String)
  | sequence (tag : Option String) (items : List Node)
  | mapping (tag : Option String) (pairs : List (Node × Node))

/-- The node that stands where nothing is written. -/
def Node.absent : Node := .text none true ""

/-- What is left to read, and what the names in it mean. -/
structure Feed where
  tokens : List Token
  /-- The nodes that have a name. -/
  anchors : List (String × Node) := []
  /-- The names whose nodes have begun. -/
  begun : List String := []
  /-- What the handles of tags stand for. -/
  handles : List (String × String) := []

/-- Reading tokens. -/
abbrev Reading := StateT Feed (Except Fault)

/-- The next token. -/
def upcoming : Reading (Option Token) := return (← get).tokens.head?

/-- Goes behind the next token. -/
def drop : Reading Unit := modify fun f => { f with tokens := f.tokens.drop 1 }

/-- The next token is one of these. -/
def comes (ts : List Token) : Reading Bool := do
  match ← upcoming with
  | some t => return ts.contains t
  | none => return false

/-- Goes behind the next token if it is this one. -/
def skipIf (t : Token) : Reading Bool := do
  if ← comes [t] then drop; return true else return false

/-- Goes behind a token that has to come. -/
def expect (t : Token) : Reading Unit := do
  if !(← skipIf t) then throw .malformed

/-! ## Names and tags -/

/-- The node that an alias stands for. -/
def aliased (name : String) : Reading Node := do
  let f ← get
  match f.anchors.lookup name with
  | some n => return n
  | none => throw (if f.begun.contains name then .endless else .malformed)

/-- The full tag behind a written one. -/
def fullTag (t : Tag) : Reading String := do
  match t.handle with
  | none => return t.suffix
  | some h =>
    match (← get).handles.lookup h with
    | some start => return start ++ t.suffix
    | none => throw .malformed

/-- The name and the tag in front of a node, in either order. -/
def properties : Reading (Option String × Option String) := do
  match ← upcoming with
  | some (.anchor a) =>
    drop
    match ← upcoming with
    | some (.tag t) => drop; return (some a, some (← fullTag t))
    | _ => return (some a, none)
  | some (.tag t) =>
    drop
    let t ← fullTag t
    match ← upcoming with
    | some (.anchor a) => drop; return (some a, some t)
    | _ => return (none, some t)
  | _ => return (none, none)

/-- Begins a node with a name, which has to be new. -/
def beginNamed (name : Option String) : Reading Unit := do
  match name with
  | none => return ()
  | some a =>
    if (← get).begun.contains a then throw .malformed
    modify fun f => { f with begun := a :: f.begun }

/-- Ends a node with a name. -/
def endNamed (name : Option String) (n : Node) : Reading Node := do
  match name with
  | none => return n
  | some a =>
    modify fun f => { f with anchors := (a, n) :: f.anchors }
    return n

/-- A tag that says something: a lone exclamation mark only says that the node is plain. -/
def realTag (tag : Option String) : Option String := tag.filter (· != "!")

/-- A text with its tag. -/
def textNode (tag : Option String) (isPlain : Bool) (content : String) : Node :=
  .text (realTag tag) (tag == some "!" || (isPlain && tag.isNone)) content

/-! ## The grammar -/

/-- Where a node stands, which decides what it may be. -/
inductive Spot where
  /-- Inside brackets: nothing in block form. -/
  | flow
  | block
  /-- The value of a key: the items of a sequence may stand right below the key. -/
  | value
deriving DecidableEq, Repr

mutual
/-- A node. A token uses up four units of the fuel at most, here and below. -/
def node : Nat → Spot → Reading Node
  | 0, _ => throw .malformed
  | fuel + 1, spot => do
    match ← upcoming with
    | some (.alias name) => drop; aliased name
    | _ =>
      let (name, tag) ← properties
      beginNamed name
      endNamed name (← content fuel spot name.isSome tag)

/-- A node behind its name and tag. -/
def content : Nat → Spot → Bool → Option String → Reading Node
  | 0, _, _, _ => throw .malformed
  | fuel + 1, spot, named, tag => do
    match ← upcoming with
    | some (.text s isPlain) => drop; return textNode tag isPlain s
    | some .flowSequence => drop; return .sequence (realTag tag) (← flowItems fuel true)
    | some .flowMapping => drop; return .mapping (realTag tag) (← flowPairs fuel true)
    | some .entry =>
      if spot == .value then return .sequence (realTag tag) (← items fuel true)
      else bare named tag
    | some .blockSequence =>
      if spot == .flow then bare named tag
      else drop; return .sequence (realTag tag) (← items fuel false)
    | some .blockMapping =>
      if spot == .flow then bare named tag
      else drop; return .mapping (realTag tag) (← pairs fuel)
    | _ => bare named tag

/-- A node of which only the name and the tag are written. -/
def bare (named : Bool) (tag : Option String) : Reading Node :=
  if named || tag.isSome then return .text (realTag tag) ((realTag tag).isNone) ""
  else throw .malformed

/-- The items of a sequence in block form; right below a key it has no end of its own. -/
def items : Nat → Bool → Reading (List Node)
  | 0, _ => throw .malformed
  | fuel + 1, belowKey => do
    if ← skipIf .entry then
      let ends := if belowKey then [.entry, .key, .value, .blockEnd] else [.entry, .blockEnd]
      let n ← if ← comes ends then pure .absent else node fuel .block
      return n :: (← items fuel belowKey)
    else
      if !belowKey then expect .blockEnd
      return []

/-- The pairs of a mapping in block form. -/
def pairs : Nat → Reading (List (Node × Node))
  | 0 => throw .malformed
  | fuel + 1 => do
    if ← skipIf .key then
      let k ← if ← comes [.key, .value, .blockEnd] then pure .absent else node fuel .value
      let v ← pairValue fuel
      return (k, v) :: (← pairs fuel)
    else
      expect .blockEnd
      return []

/-- The value behind a key in block form, if there is one. -/
def pairValue : Nat → Reading Node
  | 0 => throw .malformed
  | fuel + 1 => do
    if ← skipIf .value then
      if ← comes [.key, .value, .blockEnd] then return .absent else node fuel .value
    else return .absent

/-- The items inside square brackets; every item but the first stands behind a comma. -/
def flowItems : Nat → Bool → Reading (List Node)
  | 0, _ => throw .malformed
  | fuel + 1, first => do
    if ← skipIf .flowSequenceEnd then return []
    if !first then expect .flowEntry
    if ← skipIf .key then
      let k ← if ← comes [.value, .flowEntry, .flowSequenceEnd] then pure .absent
        else node fuel .flow
      let v ← flowValue fuel .flowSequenceEnd
      return .mapping none [(k, v)] :: (← flowItems fuel false)
    if ← skipIf .flowSequenceEnd then return []
    let n ← node fuel .flow
    return n :: (← flowItems fuel false)

/-- The pairs inside braces; every pair but the first stands behind a comma. -/
def flowPairs : Nat → Bool → Reading (List (Node × Node))
  | 0, _ => throw .malformed
  | fuel + 1, first => do
    if ← skipIf .flowMappingEnd then return []
    if !first then expect .flowEntry
    if ← skipIf .key then
      let k ← if ← comes [.value, .flowEntry, .flowMappingEnd] then pure .absent
        else node fuel .flow
      let v ← flowValue fuel .flowMappingEnd
      return (k, v) :: (← flowPairs fuel false)
    if ← skipIf .flowMappingEnd then return []
    let k ← node fuel .flow
    return (k, .absent) :: (← flowPairs fuel false)

/-- The value behind a key inside brackets that end with `closing`, if there is one. -/
def flowValue : Nat → Token → Reading Node
  | 0, _ => throw .malformed
  | fuel + 1, closing => do
    if ← skipIf .value then
      if ← comes [.flowEntry, closing] then return .absent else node fuel .flow
    else return .absent
end

/-! ## Documents -/

/-- What the usual handles stand for. -/
def usualHandles : List (String × String) := [("!", "!"), ("!!", "tag:yaml.org,2002:")]

/-- What the lines in front of a document say about its tags. The version, written at most once, has
to be 1. -/
def directives : List Token → Bool → List (String × String) →
    Except Fault (List (String × String) × List Token)
  | .directive (.version major _) :: r, versioned, handles =>
    if versioned || major != 1 then .error .malformed else directives r true handles
  | .directive (.tagHandle h start) :: r, versioned, handles =>
    if (handles.lookup h).isSome then .error .malformed
    else directives r versioned (handles ++ [(h, start)])
  | .directive .other :: r, versioned, handles => directives r versioned handles
  | ts, _, handles => .ok (handles ++ usualHandles, ts)

/-- What begins another document, or ends one. -/
def betweenDocuments (t : Token) : Bool :=
  match t with
  | .directive _ | .documentStart | .documentEnd => true
  | _ => false

/-- The one node of a document. -/
def rootNode (handles : List (String × String)) (tokens : List Token) :
    Except Fault (Node × List Token) := do
  let (n, f) ← (node (4 * tokens.length + 4) .block).run { tokens, handles }
  return (n, f.tokens)

/-- The tree of a text; nothing if the text holds no document. -/
def Node.ofTokens? (tokens : List Token) : Except Fault (Option Node) := do
  match tokens with
  | [] => return none
  | first :: _ =>
    let (n, rest) ← match first with
      | .directive _ | .documentStart => do
        let (handles, tokens) ← directives tokens false []
        match tokens with
        | .documentStart :: r =>
          if r.isEmpty || (r.head?.map betweenDocuments).getD false then pure (Node.absent, r)
          else rootNode handles r
        | _ => throw .malformed
      | _ => rootNode usualHandles tokens
    if (rest.dropWhile (· == .documentEnd)).isEmpty then return some n else throw .malformed

end StickerPages.Yaml
