import StickerPages.Pairs
import StickerPages.Text.Blank

/-!
# Pages as trees

A page is a tree of elements and texts. Every node carries a number of its own, given when it is
made and never again, so that a node can be pointed at while the page changes around it; the root
of a page is an element named `[document]` that writes no tags.

Texts come in kinds, because comments and declarations hold characters but no reading matter. The
question that layout asks, "is this text?", is `TextKind.isReading`.
-/

namespace StickerPages.Markup

/-- What the characters of a leaf are. -/
inductive TextKind where
  | plain
  | comment
  | cdata
  | instruction
  | declaration
  | doctype
  | stylesheet
  | script
  | template
  | ruby
  | rubyParenthesis
deriving DecidableEq, Repr

/-- Comments, marked sections, instructions and declarations are not part of the reading matter; all
other kinds are. -/
def TextKind.isReading : TextKind → Bool
  | .comment | .cdata | .instruction | .declaration | .doctype => false
  | .plain | .stylesheet | .script | .template | .ruby | .rubyParenthesis => true

/-- An attribute's value: one text, or the list of words of an attribute that is read as words. A
page's note on its own encoding is `recoded`: it is written as the encoding of the output, whatever
it said. -/
inductive AttrValue where
  | text (s : String)
  | words (ws : List String)
  | recoded (declared written : String)
deriving DecidableEq, Repr

/-- The attributes of an element, in the order they were first written. -/
abbrev Attrs := List (String × AttrValue)

/-- An element without its children. -/
structure Element where
  name : String
  attrs : Attrs
deriving DecidableEq, Repr

/-- A node with its number. -/
inductive Node where
  | leaf (id : Nat) (kind : TextKind) (content : String)
  | element (id : Nat) (head : Element) (children : List Node)

/-- The name of a page's root, which no markup can spell. -/
def rootName : String := "[document]"

/-- Elements that never have content when they are read, and close themselves when written empty. -/
def voidNames : List String :=
  ["area", "base", "br", "col", "embed", "hr", "img", "input", "keygen", "link", "menuitem",
   "meta", "param", "source", "track", "wbr", "basefont", "bgsound", "command", "frame", "image",
   "isindex", "nextid", "spacer"]

/-- Elements whose text is neither decoded nor encoded. -/
def rawNames : List String := ["script", "style"]

/-! ## Attributes -/

namespace AttrValue

/-- The value as one text; words are joined by single spaces. -/
def joined : AttrValue → String
  | .text s => s
  | .words ws => " ".intercalate ws
  | .recoded declared _ => declared

/-- The value as it is written to a page. -/
def output : AttrValue → String
  | .recoded _ written => written
  | v => v.joined

/-- The value's words, whether it was read as words or not. -/
def split : AttrValue → List String
  | .words ws => ws
  | v => v.joined.blankSeparated

end AttrValue

namespace Element

/-- The value of an attribute. -/
def attr? (e : Element) (name : String) : Option AttrValue :=
  e.attrs.lookup name

/-- Writes an attribute. -/
def withAttr (e : Element) (name : String) (v : AttrValue) : Element :=
  { e with attrs := Pairs.put e.attrs name v }

/-- Removes an attribute. -/
def withoutAttr (e : Element) (name : String) : Element :=
  { e with attrs := Pairs.erase e.attrs name }

/-- The element's classes. -/
def classes (e : Element) : List String :=
  match e.attr? "class" with
  | some v => v.split
  | none => []

end Element

/-! ## Nodes -/

namespace Node

/-- The node's number. -/
def id : Node → Nat
  | .leaf i _ _ => i
  | .element i _ _ => i

/-- The element without its children, if the node is one. -/
def head? : Node → Option Element
  | .leaf .. => none
  | .element _ h _ => some h

/-- The node's children; a text has none. -/
def children : Node → List Node
  | .leaf .. => []
  | .element _ _ cs => cs

/-- The node is an element of this name. -/
def isNamed (n : Node) (name : String) : Bool :=
  match n with
  | .leaf .. => false
  | .element _ h _ => h.name == name

mutual
/-- The node and everything below it, in document order. -/
def nodes : Node → List Node
  | .leaf i k s => [.leaf i k s]
  | .element i h cs => .element i h cs :: nodesOfAll cs

/-- The nodes of several trees, one after the other. -/
def nodesOfAll : List Node → List Node
  | [] => []
  | n :: r => n.nodes ++ nodesOfAll r
end

/-- Everything below the node, in document order. -/
def descendants (n : Node) : List Node :=
  nodesOfAll n.children

/-- The first node with this number, the node itself included. -/
def find? (n : Node) (i : Nat) : Option Node :=
  n.nodes.find? fun m => m.id == i

/-- The node or something below it has this number. -/
def holds (n : Node) (i : Nat) : Bool :=
  n.nodes.any fun m => m.id == i

/-- The first element of this name below the node. -/
def firstNamed? (n : Node) (name : String) : Option Node :=
  n.descendants.find? fun m => m.isNamed name

mutual
/-- Changes the element with this number, its children excepted. -/
def modify (i : Nat) (f : Element → Element) : Node → Node
  | .leaf j k s => .leaf j k s
  | .element j h cs => .element j (if j = i then f h else h) (modifyAll i f cs)

/-- Changes the element with this number in each of several trees. -/
def modifyAll (i : Nat) (f : Element → Element) : List Node → List Node
  | [] => []
  | n :: r => n.modify i f :: modifyAll i f r
end

mutual
/-- Replaces the children of the element with this number. -/
def modifyChildren (i : Nat) (f : List Node → List Node) : Node → Node
  | .leaf j k s => .leaf j k s
  | .element j h cs =>
    .element j h (if j = i then f (modifyChildrenAll i f cs) else modifyChildrenAll i f cs)

/-- Replaces the children of the element with this number in each of several trees. -/
def modifyChildrenAll (i : Nat) (f : List Node → List Node) : List Node → List Node
  | [] => []
  | n :: r => n.modifyChildren i f :: modifyChildrenAll i f r
end

end Node

end StickerPages.Markup
