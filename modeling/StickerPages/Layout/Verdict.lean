import StickerPages.Layout.Scan

/-!
# Alone or inside text

A block is *solo* when it holds nothing but stickers, line breaks and blank text; then every sticker
in it stands alone. In any other block a sticker stands alone exactly when it has a line break on
both sides; the edge of the block is not a line break.

The verdict is kept on the page as marker classes. `Marker.add` and `Marker.remove` write them and
leave every other class where it is.
-/

namespace StickerPages.Layout

open Markup

/-- Nodes that may stand in a solo block. Comments and the like are not reading matter and do not
count. -/
def fitsSolo (stickerClass : String) : Node → Bool
  | .leaf _ k s => !k.isReading || s.isBlankText
  | n => isLineBreak n || isSticker stickerClass n

/-- The block holds nothing but stickers, line breaks and blank text. -/
def onlyStickers (stickerClass : String) (block : Node) : Bool :=
  block.children.all (fitsSolo stickerClass)

/-- A line break stands on both sides, blank texts passed over. -/
def betweenBreaks (p : Place) : Bool :=
  (previous? p).any isLineBreak && (next? p).any isLineBreak

/-- What is decided about a block and the stickers found in it, in document order. -/
structure Verdict where
  solo : Bool
  images : List Bool
deriving DecidableEq, Repr

/-- Decides about a block and the given stickers in it. -/
def judge (stickerClass : String) (block : Node) (images : List Place) : Verdict :=
  if onlyStickers stickerClass block then ⟨true, images.map fun _ => true⟩
  else ⟨false, images.map betweenBreaks⟩

namespace Marker

/-- Adds a class at the end, unless the element has it. -/
def add (name : String) (e : Element) : Element :=
  if e.classes.contains name then e else e.withAttr "class" (.words (e.classes ++ [name]))

/-- Removes a class wherever it stands; an element left without classes loses the attribute. -/
def remove (name : String) (e : Element) : Element :=
  if e.classes.contains name then
    let kept := e.classes.filter (· != name)
    if kept.isEmpty then e.withoutAttr "class" else e.withAttr "class" (.words kept)
  else e

end Marker

end StickerPages.Layout
