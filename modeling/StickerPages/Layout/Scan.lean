import StickerPages.Markup.Place

/-!
# What stands where

The questions that layout asks of a page: which elements are blocks of text, which images are
stickers, which of those lie in no block, and what stands next to a sticker when blank texts are
passed over.

There are two ways to recognise a sticker. `isSticker` looks for one class among the image's words.
`isFound` is how stickers are searched for: it also accepts an image whose class, written out, is the
searched text as a whole, and it does not look into a class that is one text.
-/

namespace StickerPages.Layout

open Markup

/-- A blank text that is part of the reading matter. -/
def isBlankText : Node → Bool
  | .leaf _ k s => k.isReading && s.isBlankText
  | .element .. => false

/-- A line break. -/
def isLineBreak (n : Node) : Bool :=
  n.isNamed "br"

/-- An image with the sticker class among its classes. -/
def isSticker (stickerClass : String) : Node → Bool
  | .leaf .. => false
  | .element _ h _ => h.name == "img" && h.classes.contains stickerClass

/-- A class attribute meets a searched text: by one of its words, or written out as a whole. -/
def meetsClass (searched : String) : AttrValue → Bool
  | .words ws => ws.contains searched || (ws.length != 1 && " ".intercalate ws == searched)
  | v => v.joined == searched

/-- An image that a search for the sticker class finds. -/
def isFound (stickerClass : String) : Node → Bool
  | .leaf .. => false
  | .element _ h _ =>
    h.name == "img" &&
      match h.attr? "class" with
      | some v => meetsClass stickerClass v
      | none => false

/-- An element with one of the block names. -/
def isBlock (blockTags : List String) : Node → Bool
  | .leaf .. => false
  | .element _ h _ => blockTags.contains h.name

/-- The number of the innermost block around a place. -/
def enclosing? (blockTags : List String) (p : Place) : Option Nat :=
  (p.above.find? fun a => isBlock blockTags a.node).map (·.node.id)

/-- The number of the place itself if it is a block, else of the innermost block around it. -/
def closest? (blockTags : List String) (p : Place) : Option Nat :=
  if isBlock blockTags p.node then some p.node.id else enclosing? blockTags p

/-- The blocks at or below a place, in document order. -/
def blocks (blockTags : List String) (p : Place) : List Place :=
  p.all.filter fun q => isBlock blockTags q.node

/-- The stickers found below a place, in document order. -/
def stickers (stickerClass : String) (p : Place) : List Place :=
  p.inside.filter fun q => isFound stickerClass q.node

/-- The stickers found below a place that lie in no block. -/
def standalone (stickerClass : String) (blockTags : List String) (p : Place) : List Place :=
  (stickers stickerClass p).filter fun q => (enclosing? blockTags q).isNone

/-- The nearest sibling in front that is not a blank text. -/
def previous? (p : Place) : Option Node :=
  (p.before.dropWhile isBlankText).head?

/-- The nearest sibling behind that is not a blank text. -/
def next? (p : Place) : Option Node :=
  (p.after.dropWhile isBlankText).head?

end StickerPages.Layout
