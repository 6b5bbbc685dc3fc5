import StickerPages.Text.Case
import StickerPages.Text.Direction.Data
import StickerPages.Text.Shapeless

/-!
# Which way a text runs

A character of a script has a direction of its own; digits, signs and blanks have none and take that of
their surroundings. A text runs the way of its first character that has one.
-/

namespace StickerPages.Text

/-- The direction in which a line is read. -/
inductive Direction where
  | fromLeft
  | fromRight
deriving DecidableEq, Repr

/-- The direction that a character has by itself. -/
def direction? (c : Char) : Option Direction :=
  let n := c.toNat
  if inRanges shapeless n then
    if inRanges shapelessFromLeft n then some .fromLeft
    else if inRanges shapelessFromRight n then some .fromRight
    else none
  else if inRanges fromLeft n then some .fromLeft
  else if inRanges fromRight n then some .fromRight
  else none

/-- The direction of the first character that has one. -/
def firstDirection? (cs : List Char) : Option Direction :=
  cs.findSome? direction?

end StickerPages.Text
