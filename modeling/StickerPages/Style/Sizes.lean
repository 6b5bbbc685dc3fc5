import StickerPages.Markup.Printer
import StickerPages.Style.Declarations
import StickerPages.Style.Rules

/-!
# Sticker sizes

A page may say how large stickers are to be, by two custom properties: one for stickers that stand
alone, one for stickers inside text. A size is settled by the settings if they give one, else by the
page, else by a default.

`Sizes.forced` are the six declarations that a size turns into; `Sizes.style` writes them into the
style of an image, whatever the style said before.
-/

namespace StickerPages.Style

open Markup

/-- The custom property with the size of a sticker that stands alone. -/
def soloProperty : String := "--sticker-solo-max-width"

/-- The custom property with the size of a sticker inside text. -/
def inlineProperty : String := "--sticker-inline-max-width"

/-- Selectors that speak of the root element. -/
def rootSelectors : List String := [":root", "html"]

/-- One of the selectors of a list, separated by commas, speaks of the root element. -/
def selectsRoot (selector : String) : Bool :=
  (selector.toList.splitOn ',').any fun s => rootSelectors.contains (String.ofList (Text.trim s))

/-- The custom properties among declarations. -/
def customOnly (ds : Declarations) : Declarations :=
  ds.filter fun d => isCustom d.1.toList

/-- The text of a style sheet element, without comments. -/
def sheetText (sheet : Node) : String :=
  let text (n : Node) : String :=
    match n with
    | .leaf _ _ s => s
    | n => n.markup
  String.ofList (stripComments (String.join (sheet.children.map text)).toList)

/-- The declarations in the top-level rules of a page's style sheets that speak of the root. -/
def sheetDeclarations (page : Node) : Declarations :=
  (page.descendants.filter fun n => n.isNamed "style").flatMap fun sheet =>
    (rules (sheetText sheet)).flatMap fun rule =>
      if selectsRoot rule.selector then parse rule.body else []

/-- The declarations in the style attribute of a page's first `html` element. -/
def rootDeclarations (page : Node) : Declarations :=
  match (page.firstNamed? "html").bind Node.head? with
  | some e =>
    match e.attr? "style" with
    | some v => parse v.joined
    | none => []
  | none => []

/-- The custom properties of a page's root: style sheets first, the root's own style last. -/
def customProperties (page : Node) : Declarations :=
  Pairs.putAll [] (customOnly (sheetDeclarations page ++ rootDeclarations page))

/-- The greatest width and height of a sticker alone and of a sticker inside text. -/
structure Sizes where
  solo : String
  inline : String
deriving DecidableEq, Repr

/-- The sizes where nobody says anything. -/
def Sizes.default : Sizes := ⟨"256px", "64px"⟩

/-- The first of three texts that is not blank, trimmed; the third is taken as it is. -/
def firstSize (override : String) (property : Option String) (default : String) : String :=
  let o := override.trimBlanks
  if !o.isEmpty then o
  else
    let p := (property.getD "").trimBlanks
    if !p.isEmpty then p else default

/-- The sizes of a page, given what the settings say. -/
def Sizes.ofPage (page : Node) (soloOverride inlineOverride : String) : Sizes :=
  let ps := customProperties page
  ⟨firstSize soloOverride (ps.lookup soloProperty) Sizes.default.solo,
   firstSize inlineOverride (ps.lookup inlineProperty) Sizes.default.inline⟩

/-- The declarations that hold an image to its size, and that no other style can overrule. -/
def Sizes.forced (sizes : Sizes) (solo : Bool) : Declarations :=
  let size := if solo then sizes.solo else sizes.inline
  [("max-width", size ++ " !important"),
   ("max-height", size ++ " !important"),
   ("width", "auto !important"),
   ("height", "auto !important"),
   ("display", "inline !important"),
   ("vertical-align", "middle !important")]

/-- A style text with the forced declarations written into it. -/
def Sizes.restyle (sizes : Sizes) (solo : Bool) (style : String) : String :=
  serialize (Pairs.putAll (parse style) (sizes.forced solo))

/-- Writes the forced declarations into the style of an element. -/
def Sizes.style (sizes : Sizes) (solo : Bool) (e : Element) : Element :=
  let before := match e.attr? "style" with
    | some v => v.joined
    | none => ""
  e.withAttr "style" (.text (sizes.restyle solo before))

end StickerPages.Style
