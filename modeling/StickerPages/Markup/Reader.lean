import StickerPages.Markup.Piece

/-!
# Reading a page into a tree

Nothing is repaired: an element stays open until its end tag comes, an end tag closes everything up
to the nearest open element of its name and is ignored if there is none, and what is still open at
the end closes there. Void elements never stay open.

`Build` is the tree under construction: the elements that are open, innermost first, each with the
children it has so far, and the characters of a text that may still go on. Numbers are given in the
order in which nodes come into being.
-/

namespace StickerPages.Markup

/-- An open element with its children so far, in reverse. -/
structure Frame where
  id : Nat
  head : Element
  children : List Node

/-- The tree under construction. `pending` is the text that may still go on, in reverse; an empty
text that has begun is different from none. -/
structure Build where
  /-- The open elements inside the root, innermost first. -/
  opened : List Frame
  root : Frame
  pending : Option (List Char)
  nextId : Nat

/-! ## Attributes as they are read -/

/-- Attributes that hold words on every element. -/
def wordAttrs : List String := ["class", "accesskey", "dropzone"]

/-- Attributes that hold words on some elements. -/
def wordAttrsOf : String → List String
  | "a" | "link" => ["rel", "rev"]
  | "td" | "th" => ["headers"]
  | "form" => ["accept-charset"]
  | "object" => ["archive"]
  | "area" => ["rel"]
  | "icon" => ["sizes"]
  | "iframe" => ["sandbox"]
  | "output" => ["for"]
  | _ => []

/-- An attribute's value on an element: its words, or the text as it is. -/
def readValue (element attr value : String) : AttrValue :=
  if wordAttrs.contains attr || (wordAttrsOf element).contains attr then
    .words value.blankSeparated
  else .text value

/-- An encoding named behind `charset=` in the text of a note on the page's content, replaced. -/
def recodeFrom : Bool → Nat → List Char → List Char
  | _, 0, cs => cs
  | _, _, [] => []
  | opens, fuel + 1, c :: r =>
    if opens && (c :: r).take 8 = "charset=".toList then
      "charset=utf-8".toList ++
        recodeFrom false fuel (((c :: r).drop 8).dropWhile (· != ';'))
    else c :: recodeFrom (c == ';' || Text.isBlank c) fuel r

/-- The encoding of every page this library writes. -/
def outputEncoding : String := "utf-8"

/-- A page's notes on its own encoding are marked, so that they tell the truth when written. -/
def noteEncoding (name : String) (attrs : Attrs) : Attrs :=
  let declared (v : AttrValue) (written : String) : AttrValue := .recoded v.joined written
  if name ≠ "meta" then attrs
  else
    match attrs.lookup "charset", attrs.lookup "content", attrs.lookup "http-equiv" with
    | some v, _, _ => Pairs.put attrs "charset" (declared v outputEncoding)
    | none, some v, some kind =>
      if kind.joined.smallLetters = "content-type" then
        let cs := v.joined.toList
        Pairs.put attrs "content" (declared v (String.ofList (recodeFrom true (cs.length + 1) cs)))
      else attrs
    | _, _, _ => attrs

/-- The element that a start tag opens. An attribute written twice keeps its last value. -/
def Element.ofTag (name : String) (attrs : List (String × String)) : Element :=
  let read := attrs.foldl (fun as a => Pairs.put as a.1 (readValue name a.1 a.2)) []
  ⟨name, noteEncoding name read⟩

/-! ## Texts as they are read -/

/-- Blanks that collapse when a text holds nothing else. -/
def collapses (c : Char) : Bool :=
  c == ' ' || c == '\n' || c == '\t' || c == '\x0c' || c == '\r'

/-- Elements inside which blank texts are kept as they are. -/
def keepsBlanks (name : String) : Bool :=
  name == "pre" || name == "textarea"

/-- The kind of text inside an element that has a kind of its own. -/
def textKindOf? : String → Option TextKind
  | "rt" => some .ruby
  | "rp" => some .rubyParenthesis
  | "style" => some .stylesheet
  | "script" => some .script
  | "template" => some .template
  | _ => none

/-- A text of nothing but collapsing blanks becomes one line break if it has one, else one space. -/
def collapse (cs : List Char) : List Char :=
  if cs.all collapses then (if cs.contains '\n' then ['\n'] else [' ']) else cs

namespace Build

/-- Puts a node at the end of the innermost open element. -/
def add (b : Build) (n : Node) : Build :=
  match b.opened with
  | [] => { b with root := { b.root with children := n :: b.root.children } }
  | f :: r => { b with opened := { f with children := n :: f.children } :: r }

/-- The kind that reading text has here: that of the innermost element with a kind of its own. -/
def textKind (b : Build) : TextKind :=
  (b.opened.findSome? fun f => textKindOf? f.head.name).getD .plain

/-- Adds a leaf of the given kind, its blanks collapsed unless an open element keeps them. -/
def addLeaf (b : Build) (kind : TextKind) (cs : List Char) : Build :=
  let cs := if b.opened.any fun f => keepsBlanks f.head.name then cs else collapse cs
  { b.add (.leaf b.nextId kind (String.ofList cs)) with nextId := b.nextId + 1 }

/-- Ends the text that may still go on. -/
def flush (b : Build) : Build :=
  match b.pending with
  | none => b
  | some cs => { b with pending := none }.addLeaf b.textKind cs.reverse

/-- Closes the innermost open element. -/
def close (b : Build) : Build :=
  match b.opened with
  | [] => b
  | f :: r => { b with opened := r }.add (.element f.id f.head f.children.reverse)

/-- Closes the `n` innermost open elements. -/
def closeMany : Nat → Build → Build
  | 0, b => b
  | n + 1, b => closeMany n b.close

/-- Closes everything up to the nearest open element of this name; nothing if there is none. -/
def closeTo (b : Build) (name : String) : Build :=
  if b.opened.any fun f => f.head.name == name then
    closeMany ((b.opened.takeWhile fun f => f.head.name != name).length + 1) b
  else b

/-- Takes in one piece. -/
def take (b : Build) : Piece → Build
  | .text cs => { b with pending := some (cs.reverse ++ b.pending.getD []) }
  | .note kind cs => b.flush.addLeaf kind cs
  | .stop name => b.flush.closeTo name
  | .start name attrs closed =>
    let b := b.flush
    let e := Element.ofTag name attrs
    if closed || voidNames.contains name then
      { b.add (.element b.nextId e []) with nextId := b.nextId + 1 }
    else { b with opened := ⟨b.nextId, e, []⟩ :: b.opened, nextId := b.nextId + 1 }

/-- Nothing read yet; the root takes the first number. -/
def start (firstId : Nat) : Build :=
  ⟨[], ⟨firstId, ⟨rootName, []⟩, []⟩, none, firstId + 1⟩

/-- Closes everything: the page and the first number not given. -/
def finish (b : Build) : Node × Nat :=
  let b := b.flush
  let b := closeMany b.opened.length b
  (.element b.root.id b.root.head b.root.children.reverse, b.nextId)

end Build

/-- Reads a page; its nodes are numbered from `firstId` on. The second part is the first number not
given to a node. -/
def read (firstId : Nat) (page : String) : Node × Nat :=
  ((pieces page.toList).foldl Build.take (Build.start firstId)).finish

/-- A page read on its own. -/
def page (s : String) : Node :=
  (read 0 s).1

end StickerPages.Markup
