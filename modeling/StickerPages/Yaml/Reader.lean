import StickerPages.Yaml.Date
import StickerPages.Yaml.Node
import StickerPages.Yaml.Token.Lexer

/-!
# Reading YAML

The value of a tree. A node with a tag is what its tag says; a plain text without one is a number, a
truth value, a date or nothing, if it looks like that, and a text otherwise.

A mapping may take over the pairs of others behind the key `<<`: those come first and its own pairs
go over them, and of several others the first counts most. A key is a scalar.
-/

namespace StickerPages.Yaml

/-- What kind of value a text stands for. -/
inductive Kind where
  | nothing
  | truth
  | whole
  | fraction
  | date
  | text
  /-- The key that takes over pairs. -/
  | takeOver
  /-- The key that stands for a mapping's value: as a key it is a text, elsewhere it means nothing. -/
  | valueKey
deriving DecidableEq, Repr

/-- Words for true. -/
def trueWords : List String :=
  ["yes", "Yes", "YES", "true", "True", "TRUE", "on", "On", "ON"]

/-- Words for false. -/
def falseWords : List String :=
  ["no", "No", "NO", "false", "False", "FALSE", "off", "Off", "OFF"]

/-- Words for nothing. -/
def nothingWords : List String := ["", "~", "null", "Null", "NULL"]

/-- The kind of a plain text. -/
def plainKind (s : String) : Kind :=
  if trueWords.contains s || falseWords.contains s then .truth
  else if isFraction s.toList then .fraction
  else if isWhole s.toList then .whole
  else if s == "<<" then .takeOver
  else if nothingWords.contains s then .nothing
  else if (Date.read? s.toList).isSome then .date
  else if s == "=" then .valueKey
  else .text

/-- What all usual tags begin with. -/
def usualTag (name : String) : String := "tag:yaml.org,2002:" ++ name

/-- The kind behind a tag of a text. -/
def taggedKind? (tag : String) : Option Kind :=
  [("null", Kind.nothing), ("bool", .truth), ("int", .whole), ("float", .fraction),
   ("timestamp", .date), ("str", .text), ("merge", .takeOver), ("value", .valueKey)].findSome?
    fun e => if usualTag e.1 == tag then some e.2 else none

/-- The kind of a text with its tag. -/
def textKind? (tag : Option String) (isPlain : Bool) (s : String) : Option Kind :=
  match tag with
  | some t => taggedKind? t
  | none => some (if isPlain then plainKind s else .text)

/-- The truth value that a word stands for. -/
def truth (s : String) : Except Fault Bool :=
  let w := String.ofList (s.toList.map Char.toLower)
  if trueWords.contains w then .ok true
  else if falseWords.contains w then .ok false
  else .error (.notTruth s)

/-- The date that a text stands for. -/
def date (s : String) : Except Fault Scalar :=
  match Date.readMarked? s.toList with
  | none => .error (.notDate s)
  | some d => if d.isReal then .ok d.scalar else .error (.noSuchDate s)

/-- The value of a text of a kind. -/
def scalarOf (k : Kind) (s : String) : Except Fault Scalar :=
  match k with
  | .nothing => .ok .null
  | .truth => (truth s).map .bool
  | .whole => (whole s).map .int
  | .fraction => (fraction s).map .float
  | .date => date s
  | .text => .ok (.text s)
  | .takeOver | .valueKey => .error .malformed

/-- The value of a text with its tag. -/
def textValue (tag : Option String) (isPlain : Bool) (s : String) : Except Fault Scalar :=
  match textKind? tag isPlain s with
  | some k => scalarOf k s
  | none => .error .malformed

/-- The node is the key that takes over pairs. -/
def Node.takesOver : Node → Bool
  | .text tag isPlain s => textKind? tag isPlain s == some .takeOver
  | _ => false

/-- A key. -/
def Node.key : Node → Except Fault Scalar
  | .text tag isPlain s =>
    if textKind? tag isPlain s == some .valueKey then .ok (.text s) else textValue tag isPlain s
  | _ => .error .malformed

/-- A collection has no tag, or the usual one. -/
def isUsual (name : String) (tag : Option String) : Bool :=
  match tag with
  | none => true
  | some t => t == usualTag name

mutual
/-- The value of a node. -/
def Node.value : Node → Except Fault Value
  | .text tag isPlain s => (textValue tag isPlain s).map .scalar
  | .sequence tag items =>
    if isUsual "seq" tag then (itemValues items).map .list else .error .malformed
  | .mapping tag pairs =>
    if isUsual "map" tag then
      match pairValues pairs with
      | .ok (taken, own) => .ok (.map (Pairs.putAll [] (taken ++ own)))
      | .error f => .error f
    else .error .malformed

/-- The values of items. -/
def itemValues : List Node → Except Fault (List Value)
  | [] => .ok []
  | n :: r => do return (← n.value) :: (← itemValues r)

/-- The pairs that a mapping takes over, and its own. -/
def pairValues : List (Node × Node) → Except Fault (Entries × Entries)
  | [] => .ok ([], [])
  | (k, v) :: r => do
    if k.takesOver then
      let taken ← takenFrom v
      let (more, own) ← pairValues r
      return (taken ++ more, own)
    else
      let key ← k.key
      let value ← v.value
      let (taken, own) ← pairValues r
      return (taken, (key, value) :: own)

/-- The pairs that are taken over from a node: a mapping, or several of which the first counts
most. -/
def takenFrom : Node → Except Fault Entries
  | .mapping _ pairs => do
    let (taken, own) ← pairValues pairs
    return taken ++ own
  | .sequence _ items => takenFromAll items
  | .text .. => .error .malformed

/-- The pairs that are taken over from several mappings, the last mapping's pairs first. -/
def takenFromAll : List Node → Except Fault Entries
  | [] => .ok []
  | .mapping _ pairs :: r => do
    let (taken, own) ← pairValues pairs
    let later ← takenFromAll r
    return later ++ (taken ++ own)
  | _ :: _ => .error .malformed
end

/-- The data in a YAML text; a text without a document holds nothing. -/
def read (s : String) : Except Fault Value := do
  match ← Node.ofTokens? (← Token.ofText s) with
  | none => return .null
  | some n => n.value

end StickerPages.Yaml
