import StickerPages.Markup.Frame
import StickerPages.Markup.Selector.Attribute

/-!
# Languages in selectors

An element speaks the language that it or the nearest element around it names; an empty name is passed
over, but counts where nothing else is found. A page that names none may announce one in its head.

A language range such as `de-*-DE` is matched against a language tag subtag by subtag. The tag may have
more subtags than the range asks for, and others in between as long as they are longer than one letter.
-/

namespace StickerPages.Markup.Selector

/-! ## Ranges -/

/-- Drops the stars behind the first subtag, `inRun` saying that one was just dropped with the dash
behind it. -/
def withoutStars (inRun : Bool) : List Char → List Char
  | '-' :: '*' :: '-' :: r => '-' :: withoutStars true r
  | '-' :: '*' :: r => '-' :: (if atEnd r then withoutStars false r else '*' :: withoutStars false r)
  | '*' :: '-' :: r => if inRun then withoutStars true r else '*' :: withoutStars false ('-' :: r)
  | '*' :: r => if inRun && atEnd r then withoutStars false r else '*' :: withoutStars false r
  | c :: r => c :: withoutStars false r
  | [] => []

/-- The subtags between the dashes, in small letters. -/
def subtags (cs : List Char) : List String :=
  (String.ofList (Text.small cs)).splitOn "-"

/-- The subtags of a range, behind its first, are found among those of a tag in their order. -/
def found (ranges : List String) : List String → Bool
  | [] => ranges.isEmpty
  | s :: ss =>
    match ranges with
    | [] => true
    | r :: rs =>
      if r.isEmpty then false
      else if s == r then found rs ss
      -- a subtag of one letter opens an extension, and no range looks past it
      else s.length != 1 && found (r :: rs) ss

/-- A language tag lies in a range. -/
def inRange (range tag : List Char) : Bool :=
  match subtags (withoutStars false range), subtags tag with
  -- the empty range holds the empty tag and nothing else
  | [""], [s] => s.isEmpty
  | r :: rs, s :: ss =>
    (if r == "*" then !(s.isEmpty && ss.isEmpty) else r == s) && found rs ss
  | _, _ => false

/-! ## What an element speaks -/

/-- The language named at `here` or in the elements `above`, and the place where the search ended. -/
def named (heard : Option String) : List Level → Level → Option String × Place
  | above, here =>
    let heard := ((here.node.head?.bind fun e => attribute? e "lang").map (·.joined)).or heard
    match above with
    | [] => (heard, ⟨here, []⟩)
    | l :: r =>
      if heard.any (· != "") || l.node.isFrame then (heard, ⟨here, l :: r⟩)
      else named heard r l

/-- The language that attributes announce, one of them saying that the other does. -/
def announced? (saysSo : Bool) (content : String) : Attrs → Option String
  | [] => none
  | (k, v) :: r =>
    let key := Text.asciiSmall k.toList
    let saysSo := saysSo || (key == "http-equiv".toList &&
      Text.asciiSmall v.joined.toList == "content-language".toList)
    let content := if key == "content".toList then v.joined else content
    if saysSo && content != "" then some content else announced? saysSo content r

/-- What stands in the head of a page. -/
def headOf? (top : Node) : Option (List Node) := do
  let html ← (if top.isFrame then [] else top.children).find? (·.isNamed "html")
  let head ← html.children.find? (·.isNamed "head")
  return head.children

/-- The language announced among the nodes of a head. -/
def announcedIn? (ns : List Node) : Option String :=
  ns.findSome? fun n => if n.isNamed "meta" then n.head?.bind (announced? false "" ·.attrs) else none

/-- The language that is spoken at a place. Where no element names one and a head was searched in vain,
the top of that page is added to `silent`, and from then on the empty language is spoken there. -/
def language? (p : Place) (silent : List Nat) : Option String × List Nat :=
  match named none p.above p.toLevel with
  | (some l, _) => (some l, silent)
  | (none, top) =>
    if silent.contains top.node.id then (some "", silent)
    else
      match headOf? top.node with
      | none => (none, silent)
      | some ns =>
        match announcedIn? ns with
        | some l => (some l, silent)
        | none => (none, top.node.id :: silent)

end StickerPages.Markup.Selector
