import StickerPages.Yaml.Quoted

/-!
# Tokens

What a YAML text is made of: marks between documents, the beginnings and ends of collections, signs
inside them, names given to nodes, and texts. A block collection has no closing sign; where its
indentation ends, the reader puts one.

This module holds the tokens and reads those that are made of names: anchors, aliases, tags and
directives.
-/

namespace StickerPages.Yaml

/-- A tag as written: what stands between two exclamation marks, if anything does, and the rest. -/
structure Tag where
  handle : Option String
  suffix : String
deriving DecidableEq, Repr

/-- A line about the whole document. -/
inductive Directive where
  | version (major minor : Nat)
  | tagHandle (handle start : String)
  | other
deriving DecidableEq, Repr

/-- A token. -/
inductive Token where
  | directive (d : Directive)
  | documentStart
  | documentEnd
  | blockSequence
  | blockMapping
  | blockEnd
  | flowSequence
  | flowSequenceEnd
  | flowMapping
  | flowMappingEnd
  | entry
  | flowEntry
  | key
  | value
  | alias (name : String)
  | anchor (name : String)
  | tag (t : Tag)
  | text (content : String) (isPlain : Bool)
deriving DecidableEq, Repr

/-- A character of a name. -/
def isNameChar (c : Char) : Bool := c.isAlphanum || c == '-' || c == '_'

/-- A name, which is not empty. -/
def nameAt (c : Cursor) : Except Fault (String × Cursor) :=
  let (name, c) := c.run isNameChar
  if name.isEmpty then .error .malformed else .ok (String.ofList name, c)

/-- The name behind the sign of an anchor or an alias. -/
def anchorName (c : Cursor) : Except Fault (String × Cursor) := do
  let (name, c) ← nameAt c.step
  if endsWord c.next || "?:,]\x7d%@`".toList.contains c.next then return (name, c)
  else throw .malformed

/-! ## Tags -/

/-- A character of a tag. -/
def isTagChar (c : Char) : Bool := c.isAlphanum || "-;/?:@&=+$,_.!~*'()[]".toList.contains c

/-- The bytes written behind percent signs, as one number each. The fuel bounds the bytes. -/
def percentBytes : Nat → Cursor → Except Fault (List UInt8 × Cursor)
  | 0, _ => .error .malformed
  | fuel + 1, c =>
    if c.next == '%' then
      match Text.number? 16 [c.ahead 1, c.ahead 2] with
      | none => .error .malformed
      | some n => do
        let (more, c) ← percentBytes fuel (Cursor.skip 3 c)
        return (UInt8.ofNat n :: more, c)
    else .ok ([], c)

/-- The rest of a tag. The fuel bounds the characters. -/
def tagRest : Nat → List Char → Cursor → Except Fault (List Char × Cursor)
  | 0, _, _ => .error .malformed
  | fuel + 1, read, c =>
    if isTagChar c.next then tagRest fuel (c.next :: read) c.step
    else if c.next == '%' then do
      let (bytes, c) ← percentBytes (c.rest.length + 1) c
      match String.fromUTF8? ⟨bytes.toArray⟩ with
      | none => throw .malformed
      | some s => tagRest fuel (s.toList.reverse ++ read) c
    else .ok (read.reverse, c)

/-- A part of a tag, which is not empty. -/
def tagText (c : Cursor) : Except Fault (String × Cursor) := do
  let (cs, c) ← tagRest (c.rest.length + 1) [] c
  if cs.isEmpty then throw .malformed else return (String.ofList cs, c)

/-- The handle of a tag: one exclamation mark, or a name between two. -/
def tagHandle (c : Cursor) : Except Fault (String × Cursor) :=
  if c.next != '!' then .error .malformed
  else if c.ahead 1 == ' ' then .ok ("!", c.step)
  else
    let (name, d) := c.step.run isNameChar
    if d.next == '!' then .ok (String.ofList ('!' :: name ++ ['!']), d.step) else .error .malformed

/-- A second exclamation mark stands in the word. -/
def hasHandle (cs : List Char) : Bool := (cs.takeWhile fun x => !endsItem x).contains '!'

/-- A tag without regard to what follows it. -/
def tagCore (c : Cursor) : Except Fault (Tag × Cursor) :=
  if c.ahead 1 == '<' then do
    let (suffix, c) ← tagText (Cursor.skip 2 c)
    if c.next == '>' then return (⟨none, suffix⟩, c.step) else throw .malformed
  else if endsWord (c.ahead 1) then .ok (⟨none, "!"⟩, c.step)
  else if hasHandle (c.rest.drop 1) then do
    let (handle, c) ← tagHandle c
    let (suffix, c) ← tagText c
    return (⟨some handle, suffix⟩, c)
  else do
    let (suffix, c) ← tagText c.step
    return (⟨some "!", suffix⟩, c)

/-- The tag that begins here. -/
def tagAt (c : Cursor) : Except Fault (Tag × Cursor) := do
  let (t, c) ← tagCore c
  if endsItem c.next then return (t, c) else throw .malformed

/-! ## Directives -/

/-- A decimal number. -/
def numberAt (c : Cursor) : Except Fault (Nat × Cursor) :=
  let (ds, c) := c.run Char.isDigit
  if ds.isEmpty then .error .malformed
  else .ok (Text.number 10 ds, c)

/-- What a directive says. -/
def directiveBody (name : String) (c : Cursor) : Except Fault (Directive × Cursor) := do
  if name == "YAML" then
    let (major, c) ← numberAt c.passSpaces
    if c.next != '.' then throw .malformed
    let (minor, c) ← numberAt c.step
    if endsItem c.next then return (.version major minor, c) else throw .malformed
  else if name == "TAG" then
    let (handle, c) ← tagHandle c.passSpaces
    if c.next != ' ' then throw .malformed
    let (start, c) ← tagText c.passSpaces
    if endsItem c.next then return (.tagHandle handle start, c) else throw .malformed
  else return (.other, c.passLine)

/-- The directive that begins here, with its line. -/
def directiveAt (c : Cursor) : Except Fault (Directive × Cursor) := do
  let (name, c) ← nameAt c.step
  if !endsItem c.next then throw .malformed
  let (d, c) ← directiveBody name c
  let c := c.passSpaces
  let c := if c.next == '#' then c.passLine else c
  if endsLine c.next then return (d, c.passLineEnd) else throw .malformed

end StickerPages.Yaml
