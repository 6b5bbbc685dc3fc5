import StickerPages.Live.Forest

/-!
# Changes and who is told of them

Every change of a page leaves a record: which element's children changed and which nodes came or
went, or which text was replaced. An observation watches some nodes and everything below them; it is
told of the records whose target lies there at the moment of telling.

The functions here change the forest and say what the record is. Telling is the session's part.
-/

namespace StickerPages.Live

open Markup

/-- What kind of change a record tells of. -/
inductive ChangeKind where
  | children
  | text
deriving DecidableEq, Repr

/-- The record of one change. -/
structure Change where
  kind : ChangeKind
  target : Nat
  added : List Nat := []
  removed : List Nat := []
deriving DecidableEq, Repr

namespace Forest

/-- Appends markup to an element. -/
def appendMarkup (f : Forest) (target : Nat) (markup : String) : Forest × Change :=
  let (ns, f) := f.fragment markup
  (f.append target ns, ⟨.children, target, ns.map (·.id), []⟩)

/-- Inserts markup in front of a child of an element. -/
def insertMarkup (f : Forest) (target index : Nat) (markup : String) : Forest × Change :=
  let (ns, f) := f.fragment markup
  (f.insert target index ns, ⟨.children, target, ns.map (·.id), []⟩)

/-- Puts markup in the place of an element's children. -/
def replaceChildren (f : Forest) (target : Nat) (markup : String) : Forest × Change :=
  let old := match f.node? target with
    | some n => n.children.map (·.id)
    | none => []
  let f := f.detachAll old
  let (ns, f) := f.fragment markup
  (f.append target ns, ⟨.children, target, ns.map (·.id), old⟩)

/-- Takes a node off the page; a node with no element around it stays, and nothing is recorded. -/
def remove (f : Forest) (i : Nat) : Forest × Option Change :=
  match f.parent? i with
  | some parent => (f.detach i, some ⟨.children, parent, [], [i]⟩)
  | none => (f, none)

/-- Replaces a text; refused for a node with no element around it. -/
def setText (f : Forest) (i : Nat) (text : String) : Option (Forest × Change) :=
  (f.replaceByText i text).map fun (new, f) => (f, ⟨.text, new, [], []⟩)

end Forest

/-- Someone who watches some nodes and what lies below them. -/
structure Observation (ω : Type) where
  key : Nat
  who : ω
  roots : List Nat
deriving Repr

/-- The records that an observation is told of, as the forest stands. -/
def Observation.matching {ω : Type} (o : Observation ω) (f : Forest) (cs : List Change) :
    List Change :=
  cs.filter fun c => o.roots.any fun r => f.contains r c.target

end StickerPages.Live
