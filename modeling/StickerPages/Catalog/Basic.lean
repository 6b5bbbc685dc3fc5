import StickerPages.Pairs

/-!
# Stickers and groups of stickers

A sticker is a picture with an address, or a piece of text that stands for itself. Stickers come in
groups, groups in catalogs. What the rest of the library wants of a catalog is the table from
shortcodes to picture addresses, `shortcodeMap`.
-/

namespace StickerPages.Catalog

/-- A sticker. The preview is what a panel shows, the original what is put into a page; a sticker
without a preview is text. -/
structure Sticker where
  name : String
  preview : String := ""
  alt : String := ""
  shortcode : String := ""
  original : String := preview
deriving DecidableEq, Repr

/-- A group of stickers under one name. -/
structure Group where
  name : String
  tag : String := ""
  stickers : List Sticker := []
  icon : String := ""
deriving DecidableEq, Repr

/-- The sticker is a picture. -/
def Sticker.isImage (s : Sticker) : Bool := !s.preview.isEmpty

/-- A sticker that is the given text. -/
def Sticker.ofText (name text : String) : Sticker := { name, alt := text, shortcode := text }

/-- The first sticker with this shortcode. -/
def Group.find? (g : Group) (shortcode : String) : Option Sticker :=
  g.stickers.find? fun s => s.shortcode == shortcode

/-- How many stickers the groups hold. -/
def count (gs : List Group) : Nat := (gs.flatMap fun g => g.stickers).length

/-- The stickers that a page can call for: pictures with a shortcode. -/
def callable (gs : List Group) : List Sticker :=
  (gs.flatMap fun g => g.stickers).filter fun s => s.isImage && !s.shortcode.isEmpty

/-- The table from shortcodes to originals; of stickers that share a shortcode the last one counts. -/
def shortcodeMap (gs : List Group) : List (String × String) :=
  Pairs.putAll [] ((callable gs).map fun s => (s.shortcode, s.original))

end StickerPages.Catalog
