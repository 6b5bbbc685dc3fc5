import StickerPages.Markup.Node

/-!
# Places

A node together with what lies around it: the siblings in front of it and behind it, nearest first,
and the elements it lies in, innermost first, each of them among its own siblings. `Place.inside` lists
the places below a place in document order. All that layout asks about a sticker's surroundings, and all
that a selector asks about an element's, is answered by its place.
-/

namespace StickerPages.Markup

/-- A node among its siblings. -/
structure Level where
  node : Node
  /-- The siblings in front, nearest first. -/
  before : List Node
  /-- The siblings behind, nearest first. -/
  after : List Node

/-- A node and its surroundings. -/
structure Place extends Level where
  /-- The elements around it, innermost first. -/
  above : List Level

namespace Node

mutual
/-- The places below a node that lies among the siblings `before` and `after`, inside `above`. -/
def placesBelow (before after : List Node) (above : List Level) : Node → List Place
  | .leaf .. => []
  | .element i h cs => placesAmong (⟨.element i h cs, before, after⟩ :: above) [] cs

/-- The places of siblings and of everything below them; `before` are the siblings in front. -/
def placesAmong (above : List Level) (before : List Node) : List Node → List Place
  | [] => []
  | n :: r =>
    ⟨⟨n, before, r⟩, above⟩ :: (placesBelow before r above n ++ placesAmong above (n :: before) r)
end

end Node

namespace Place

/-- A tree's root: nothing lies around it. -/
def top (n : Node) : Place := ⟨⟨n, [], []⟩, []⟩

/-- The places below, in document order. -/
def inside (p : Place) : List Place :=
  p.node.placesBelow p.before p.after p.above

/-- The place of the element around it. -/
def parent? (p : Place) : Option Place :=
  match p.above with
  | [] => none
  | l :: r => some ⟨l, r⟩

/-- The element that stands here, if one does. -/
def element? (p : Place) : Option Element :=
  p.node.head?

/-- The places right below, in order. -/
def children (p : Place) : List Place :=
  let rec go (before : List Node) : List Node → List Place
    | [] => []
    | n :: r => ⟨⟨n, before, r⟩, p.toLevel :: p.above⟩ :: go (n :: before) r
  go [] p.node.children

/-- The places in front among the siblings, nearest first. -/
def inFront (p : Place) : List Place :=
  let rec go (n : Node) (after : List Node) : List Node → List Place
    | [] => []
    | m :: r => ⟨⟨m, r, n :: after⟩, p.above⟩ :: go m (n :: after) r
  go p.node p.after p.before

/-- The places behind among the siblings, nearest first. -/
def behind (p : Place) : List Place :=
  let rec go (n : Node) (before : List Node) : List Node → List Place
    | [] => []
    | m :: r => ⟨⟨m, n :: before, r⟩, p.above⟩ :: go m (n :: before) r
  go p.node p.before p.after

/-- The place itself and the places below. -/
def all (p : Place) : List Place :=
  p :: p.inside

/-- The place of the node with this number, at or below `p`. -/
def find? (p : Place) (i : Nat) : Option Place :=
  p.all.find? fun q => q.node.id == i

end Place

mutual
theorem Node.placesBelow_nodes (before after : List Node) (above : List Level) (n : Node) :
    (n.placesBelow before after above).map (·.node) = n.descendants := by
  match n with
  | .leaf .. => simp [Node.placesBelow, Node.descendants, Node.children, Node.nodesOfAll]
  | .element i h cs =>
    simpa [Node.placesBelow, Node.descendants, Node.children] using
      Node.placesAmong_nodes (⟨.element i h cs, before, after⟩ :: above) [] cs

/-- The places of several trees are the places of their nodes, in the same order. -/
theorem Node.placesAmong_nodes (above : List Level) (before ns : List Node) :
    (Node.placesAmong above before ns).map (·.node) = Node.nodesOfAll ns := by
  match ns with
  | [] => simp [Node.placesAmong, Node.nodesOfAll]
  | n :: r =>
    have h1 := Node.placesBelow_nodes before r above n
    have h2 := Node.placesAmong_nodes above (n :: before) r
    cases n <;>
      simp_all [Node.placesAmong, Node.nodesOfAll, Node.nodes, Node.descendants, Node.children]
end

end StickerPages.Markup
