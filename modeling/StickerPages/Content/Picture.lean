/-!
# A sticker as markup

How a sticker is written into a page. Everything that comes from a catalog is escaped, so that it
stays inside the attribute it is written to.
-/

namespace StickerPages.Content

/-- The style of every sticker in a page. -/
def baseStyle : String :=
  "display:inline;vertical-align:middle;background:none;border:none;box-shadow:none;"

/-- A character as it is written inside a quoted attribute. -/
def escapeChar (c : Char) : List Char :=
  match c with
  | '&' => "&amp;".toList
  | '<' => "&lt;".toList
  | '>' => "&gt;".toList
  | '"' => "&quot;".toList
  | '\'' => "&#x27;".toList
  | c => [c]

/-- A text as it is written inside a quoted attribute. -/
def escape (s : String) : String := String.ofList (s.toList.flatMap escapeChar)

/-- A picture with its address, the text that stands in for it, and a style besides the usual one. -/
def picture (url alt style : String) : String :=
  "<img src=\"" ++ escape url ++ "\" srcset=\"" ++ escape url ++ "\" sizes=\"\" alt=\"" ++
    escape alt ++ "\" title=\"" ++ escape alt ++
    "\" class=\"sticker-emoji no-lightbox\" style=\"" ++ escape (baseStyle ++ style) ++
    "\" referrerpolicy=\"no-referrer\">"

end StickerPages.Content
