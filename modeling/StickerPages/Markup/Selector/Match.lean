import StickerPages.Markup.Selector.Bounds
import StickerPages.Markup.Selector.Flow
import StickerPages.Markup.Selector.Form
import StickerPages.Markup.Selector.Language
import StickerPages.Markup.Selector.Position

/-!
# What a selector selects

`Condition.holds` asks whether the element at a place meets a condition, by recursion on the condition:
a condition about other elements is asked of each of them with the conditions inside it. The page itself
counts as an element when the elements around another are asked, but is never selected.

The questions are asked in a fixed order and no further than the answer needs, because one of them may
be refused. What a search learns on its way are the pages that speak no language.
-/

namespace StickerPages.Markup

/-- An answer in a search that knows the tops of pages without a language and may be refused. -/
abbrev Search := StateT (List Nat) (Except Selector.Refusal)

namespace Selector

/-- The elements from which a combinator leads to a place, nearest first. -/
def sources (joint : Combinator) (confined : Bool) (p : Place) : List Place :=
  match joint with
  | .descendant => p.around confined
  | .child => (p.around confined).take 1
  | .adjacent => (Place.elements p.inFront).take 1
  | .sibling => Place.elements p.inFront

/-- The elements to which a combinator leads from a place, nearest first. -/
def targets (joint : Combinator) (confined : Bool) (p : Place) : List Place :=
  match joint with
  | .descendant => Place.elements (p.within confined)
  | .child => Place.elements (p.rightBelow confined)
  | .adjacent => (Place.elements p.behind).take 1
  | .sibling => Place.elements p.behind

/-- The siblings that a position is counted over, nearest first, the element itself left out. -/
def rivals (p : Position) (place : Place) : List Place :=
  (Place.elements (if p.fromBack then place.behind else place.inFront)).filter fun q =>
    !p.sameName || q.name == place.name

/-- The texts in which a text is looked for. -/
def pieces (whole : Bool) (p : Place) : List String :=
  if whole then [String.join ((p.within true).filterMap Place.reading?)]
  else (p.rightBelow true).filterMap Place.reading?

/-- One of the texts stands in the element. Where the whole text is looked through without looking
inside, its single characters are what the texts are compared with. -/
def hasText (whole inside : Bool) (texts : List String) (p : Place) : Bool :=
  let ps := pieces whole p
  texts.any fun t =>
    if whole == inside then ps.any fun s => occurs t.toList s.toList
    else if whole then ps.any fun s => s.toList.any fun c => t.isEmpty || t.toList == [c]
    else ps.contains t

/-- The place is empty to a reader: no element, and no text but spaces. -/
def isVoid (p : Place) : Bool :=
  p.element?.isNone && ((p.reading?.getD "").toList.all isSpace)

/-- Nothing but comments and blanks. -/
def isQuiet : Node → Bool
  | .leaf _ .cdata _ => false
  | .leaf _ k s => !k.isReading || s.isBlankText
  | .element .. => false

/-- Where names come from: from anywhere, from nowhere, or from the one source that is known inside a
frame. -/
def knowsSpace (confined : Bool) : Option String → Bool
  | none => true
  | some space => space == "*" || (confined && space == "html")

/-- The conditions that can be told from a place alone. -/
def plain (confined : Bool) (p : Place) (e : Element) : Condition → Bool
  | .named space name =>
    let name := String.ofList (Text.asciiSmall name.toList)
    knowsSpace confined space && (name == "*" || name == e.name)
  | .defined => !e.name.toList.contains '-' || e.name.toList.contains ':'
  | .root => p.isTop && p.before.all isQuiet && p.after.all isQuiet
  | .scope => p.isFirst
  | .blank =>
    let text := String.join ((p.within false).filterMap Place.reading?)
    text == "" || text == "\n"
  | .empty => (p.rightBelow true).all isVoid
  | .identified i => attributeText e "id" == i
  | .classed name => hasClass e name
  | .hasAttr name => (attribute? e name).isSome
  | .attr name how value foldCase =>
    (attribute? e name).any fun v => compare how foldCase value v.joined
  | .sendsForm => isFirstSender p
  | .runs d => flow? p.above p.toLevel == some d
  | .holdsText whole inside texts => hasText whole inside texts p
  | _ => false

end Selector

open Selector

mutual
/-- Whether the element at a place meets a condition. -/
def Condition.holds : Condition → Bool → Place → Search Bool
  | .position p among around, confined, place => do
    -- an element that is not counted itself has no position
    if ← meetsOne around (confined || among) place then
      let counted ← (rivals p place).filterM fun q => meetsOne around (confined || among) q
      return p.formula.meets (place.before.length + place.after.length + 1) (counted.length + 1)
    else return false
  | .oneOf inner alternatives, confined, place => meetsOne alternatives (confined || inner) place
  | .noneOf inner alternatives, confined, place =>
    return !(← meetsOne alternatives (confined || inner) place)
  | .reached joint conditions, confined, place =>
    (sources joint confined place).anyM fun q => meets conditions confined q
  | .reaches joint conditions, confined, place =>
    (targets joint confined place).anyM fun q => meets conditions confined q
  | .bounded wanted, _, place => do
    match place.element? with
    | none => return false
    | some e =>
      match withinBounds? e with
      | .error r => throw r
      | .ok b => return b == some wanted
  | .speaks ranges, _, place => do
    let (language, silent) := language? place (← get)
    set silent
    return language.any fun l => ranges.any fun r => inRange r.toList l.toList
  | .undecided, _, place => do
    match place.element? with
    | none => return false
    | some e =>
      match isUndecided? place e with
      | some b => return b
      | none => throw .noForm
  -- what is left learns nothing and is never refused
  | c, confined, place => return place.element?.any fun e => plain confined place e c

/-- Whether the element at a place meets all of several conditions. A list of alternatives that it does
not meet does not spare it the other lists. -/
def meets : List Condition → Bool → Place → Search Bool
  | [], _, _ => return true
  | c :: r, confined, place => do
    if ← c.holds confined place then meets r confined place
    else
      -- the lists that follow are asked all the same, and one of them may be refused
      if c.isChoice then choices r confined place
      return false

/-- Asks about the lists of alternatives that come next. -/
def choices : List Condition → Bool → Place → Search Unit
  | [], _, _ => return ()
  | c :: r, confined, place => do
    if c.isChoice then
      let _ ← c.holds confined place
      choices r confined place

/-- Whether the element at a place meets one of several alternatives. -/
def meetsOne : List (List Condition) → Bool → Place → Search Bool
  | [], _, _ => return false
  | a :: r, confined, place => do
    if ← meets a confined place then return true
    else meetsOne r confined place
end

namespace Selector

/-- Whether a selector selects the element at a place. -/
def accepts (s : Selector) (p : Place) : Search Bool :=
  if p.element?.isSome then meetsOne s.alternatives s.confined p else return false

/-- The places of a page that a selector selects, in document order. -/
def select (s : Selector) (page : Node) : Except Refusal (List Place) :=
  ((Place.top page).inside.filterM s.accepts).run' []

/-- The first place of a page that a selector selects. -/
def first? (s : Selector) (page : Node) : Except Refusal (Option Place) :=
  ((Place.top page).inside.findM? s.accepts).run' []

end Selector

end StickerPages.Markup
