import StickerPages.Markup.Frame
import StickerPages.Markup.Selector.Attribute

/-!
# Which way an element runs

An element runs as its `dir` attribute says, or as its content does where it is asked to find out by
itself, and otherwise as the element around it; the top of a page runs from the left.
-/

namespace StickerPages.Markup.Selector

open Text (Direction firstDirection?)

/-- What an element says about its direction. -/
inductive Leaning where
  | set (d : Direction)
  /-- It goes by what it holds. -/
  | byContent
deriving DecidableEq, Repr

def leaning? (e : Element) : Option Leaning :=
  match keyword e "dir" with
  | "ltr" => some (.set .fromLeft)
  | "rtl" => some (.set .fromRight)
  | "auto" => some .byContent
  | _ => none

/-- Elements that set their content apart from the text around. -/
def apartNames : List String := ["bdi", "script", "style", "textarea", "iframe"]

mutual
/-- The direction that a node gives to the text it stands in. -/
def contentDirection? : Node → Option Direction
  | .leaf _ k s => if k.isReading then firstDirection? s.toList else none
  | .element _ e cs =>
    if apartNames.contains e.name || (leaning? e).isSome then none else contentDirectionAmong? cs

/-- The direction that the first of several nodes gives. -/
def contentDirectionAmong? : List Node → Option Direction
  | [] => none
  | n :: r => (contentDirection? n).or (contentDirectionAmong? r)
end

/-- The kinds of fields whose direction is that of what is written in them. -/
def writtenKinds : List String := ["text", "search", "tel", "url", "email"]

/-- What is written in a field, if the element is one whose direction goes by it. -/
def written? (n : Node) (e : Element) : Option String :=
  if e.name == "textarea" then
    some (String.join (n.children.filterMap fun m => (Place.top m).reading?))
  else if e.name == "input" && writtenKinds.contains (keyword e "type") then
    some (attributeText e "value")
  else none

/-- The direction in which an element runs. -/
def flow? : List Level → Level → Option Direction
  | above, here =>
    let around := match above with
      | [] => none
      | l :: r => if l.node.isFrame then none else flow? r l
    let atTop := Place.isTop ⟨here, above⟩
    let outside := if atTop then some .fromLeft else around
    match here.node.head? with
    | none => none
    | some e =>
      match leaning? e with
      | some (.set d) => some d
      | some .byContent =>
        match written? here.node e with
        -- a field in which nothing is written runs as the text around it
        | some "" => outside
        | some s => some ((firstDirection? s.toList).getD .fromLeft)
        | none => (contentDirectionAmong? here.node.children).or outside
      | none =>
        if e.name == "input" && keyword e "type" == "tel" then some .fromLeft
        else if e.name == "bdi" && !atTop then
          (contentDirectionAmong? here.node.children).or outside
        else outside

end StickerPages.Markup.Selector
