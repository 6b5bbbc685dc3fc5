import StickerPages.Markup.Place

/-!
# Frames

A frame holds a page of its own: what lies in an `iframe` has its own top, and a look around that is
kept inside the frame does not see the elements around it. These are the walks up and down a page that
heed frames.
-/

namespace StickerPages.Markup

/-- The element holds a page of its own. -/
def Node.isFrame (n : Node) : Bool :=
  n.isNamed "iframe"

namespace Place

/-- The element's name; a text has none. -/
def name (p : Place) : String :=
  match p.element? with
  | some e => e.name
  | none => ""

/-- The elements around, innermost first. -/
def ancestors (p : Place) : List Place :=
  go p.above
where
  go : List Level → List Place
    | [] => []
    | l :: r => ⟨l, r⟩ :: go r

/-- The elements around a place, innermost first; if `confined`, only those inside its frame. -/
def around (confined : Bool) (p : Place) : List Place :=
  if confined then p.ancestors.takeWhile fun q => !q.node.isFrame else p.ancestors

/-- The element around a place, unless that is its frame. -/
def holder? (p : Place) : Option Place :=
  (p.around true).head?

/-- The places below; if `confined`, without those in a frame. -/
def within (confined : Bool) (p : Place) : List Place :=
  if confined then
    p.inside.filter fun q => (q.above.take (q.above.length - p.above.length)).all fun l =>
      !l.node.isFrame
  else p.inside

/-- The places right below; if `confined`, a frame has none. -/
def rightBelow (confined : Bool) (p : Place) : List Place :=
  if confined && p.node.isFrame then [] else p.children

/-- The places among some where elements stand. -/
def elements (ps : List Place) : List Place :=
  ps.filter fun p => p.element?.isSome

/-- The reading matter of a place, if a text stands there. -/
def reading? (p : Place) : Option String :=
  match p.node with
  | .leaf _ k s => if k.isReading then some s else none
  | .element .. => none

/-- The first element at the top of its page. -/
def isFirst (p : Place) : Bool :=
  p.above.length == 1 && (elements p.inFront).isEmpty

/-- The first element at the top of its page, or an element right below a frame. -/
def isTop (p : Place) : Bool :=
  p.isFirst || (p.parent?.map (·.node.isFrame)).getD false

end Place

end StickerPages.Markup
