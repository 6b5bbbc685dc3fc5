import StickerPages.Markup.Place
import StickerPages.Markup.Reader

/-!
# A page that changes

While a page is changed, nodes leave it and others come in; whoever holds a node goes on holding it.
`Forest` therefore keeps the page together with every tree that was taken off it, all with one
numbering. An operation on a node finds the node wherever it is.
-/

namespace StickerPages.Live

open Markup

/-- A page, the trees taken off it, and the first number that no node has. -/
structure Forest where
  page : Node
  loose : List Node
  nextId : Nat

namespace Forest

/-- A page just read. -/
def ofMarkup (markup : String) : Forest :=
  let (page, next) := read 0 markup
  ⟨page, [], next⟩

/-- The page and the loose trees. -/
def trees (f : Forest) : List Node := f.page :: f.loose

/-- The node with this number, with its surroundings. -/
def place? (f : Forest) (i : Nat) : Option Place :=
  f.trees.findSome? fun t => (Place.top t).find? i

/-- The node with this number. -/
def node? (f : Forest) (i : Nat) : Option Node :=
  (f.place? i).map (·.node)

/-- The number of the element around a node. -/
def parent? (f : Forest) (i : Nat) : Option Nat :=
  ((f.place? i).bind Place.parent?).map (·.node.id)

/-- `root` is the node itself or lies around it. -/
def contains (f : Forest) (root i : Nat) : Bool :=
  match f.place? i with
  | some p => i == root || p.above.any fun a => a.node.id == root
  | none => false

/-- Changes every tree. -/
def mapTrees (f : Forest) (g : Node → Node) : Forest :=
  { f with page := g f.page, loose := f.loose.map g }

/-- Changes an element wherever it is. -/
def modify (f : Forest) (i : Nat) (g : Element → Element) : Forest :=
  f.mapTrees fun t => t.modify i g

/-- Puts nodes among the children of an element, in front of the child at `index`; an index beyond
the last child means the end. -/
def insert (f : Forest) (target index : Nat) (ns : List Node) : Forest :=
  f.mapTrees fun t => t.modifyChildren target fun cs => cs.take index ++ ns ++ cs.drop index

/-- Puts nodes behind the children of an element. -/
def append (f : Forest) (target : Nat) (ns : List Node) : Forest :=
  f.mapTrees fun t => t.modifyChildren target fun cs => cs ++ ns

/-- Takes a node out of the element around it; it becomes a loose tree. A node with no element
around it stays as it is. -/
def detach (f : Forest) (i : Nat) : Forest :=
  match f.parent? i, f.node? i with
  | some parent, some n =>
    let f := f.mapTrees fun t =>
      t.modifyChildren parent fun cs => cs.filter fun c => c.id != i
    { f with loose := f.loose ++ [n] }
  | _, _ => f

/-- Takes several nodes out. -/
def detachAll (f : Forest) (ids : List Nat) : Forest :=
  ids.foldl detach f

/-- The nodes of a piece of markup, with new numbers. -/
def fragment (f : Forest) (markup : String) : List Node × Forest :=
  let (root, next) := read f.nextId markup
  (root.children, { f with nextId := next })

/-- Puts a new text in the place of a node, which becomes a loose tree; `none` if no element lies
around the node. -/
def replaceByText (f : Forest) (i : Nat) (text : String) : Option (Nat × Forest) :=
  match f.parent? i, f.node? i with
  | some parent, some n =>
    let new := f.nextId
    let swap (c : Node) : Node := if c.id = i then .leaf new .plain text else c
    let f := f.mapTrees fun t => t.modifyChildren parent fun cs => cs.map swap
    some (new, { f with loose := f.loose ++ [n], nextId := new + 1 })
  | _, _ => none

/-- The first element of this name on the page. -/
def firstNamed? (f : Forest) (name : String) : Option Nat :=
  (f.page.firstNamed? name).map (·.id)

/-- The page's body; a page without one is all body. -/
def body (f : Forest) : Nat :=
  (f.firstNamed? "body").getD f.page.id

/-- The element's name. -/
def nameOf (f : Forest) (i : Nat) : String :=
  (((f.node? i).bind Node.head?).map (·.name)).getD ""

end Forest

end StickerPages.Live
