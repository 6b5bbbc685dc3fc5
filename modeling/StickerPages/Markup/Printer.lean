import StickerPages.Markup.Node
import StickerPages.Markup.Reference

/-!
# Writing markup

`Node.markup` writes a tree as a page: attributes in the order of their names, an empty void element
as one closed tag, every other element with a start and an end tag, texts with their characters
encoded unless they stand directly inside a script or a style sheet.
-/

namespace StickerPages.Markup

/-- The text in front of and behind a leaf's characters. -/
def TextKind.fence : TextKind → String × String
  | .comment => ("<!--", "-->")
  | .cdata => ("<![CDATA[", "]]>")
  | .instruction => ("<?", ">")
  | .declaration => ("<?", "?>")
  | .doctype => ("<!DOCTYPE ", ">\n")
  | .plain | .stylesheet | .script | .template | .ruby | .rubyParenthesis => ("", "")

/-- A leaf as it is written directly inside an element named `parent`. -/
def leafMarkup (parent : String) (kind : TextKind) (content : String) : String :=
  if kind.isReading && !rawNames.contains parent then
    String.ofList (encode content.toList)
  else kind.fence.1 ++ content ++ kind.fence.2

/-- An encoded value between quote marks: double ones, unless the value holds double ones and no
single ones; where it holds both, the double ones are written by name. -/
def quotedValue (cs : List Char) : List Char :=
  if cs.contains '"' then
    if cs.contains '\'' then
      '"' :: (cs.flatMap fun c => if c = '"' then "&quot;".toList else [c]) ++ ['"']
    else '\'' :: cs ++ ['\'']
  else '"' :: cs ++ ['"']

/-- One attribute with the space in front of it. -/
def attrMarkup (name : String) (v : AttrValue) : String :=
  " " ++ name ++ "=" ++ String.ofList (quotedValue (encode v.output.toList))

/-- The attributes in the order of their names. -/
def attrsMarkup (attrs : Attrs) : String :=
  String.join ((attrs.mergeSort fun a b => !(b.1 < a.1)).map fun a => attrMarkup a.1 a.2)

namespace Node

mutual
/-- The node as it is written directly inside an element named `parent`. -/
def markupIn (parent : String) : Node → String
  | .leaf _ k s => leafMarkup parent k s
  | .element _ h cs =>
    if h.name == rootName then markupAll h.name cs
    else if cs.isEmpty && voidNames.contains h.name then
      "<" ++ h.name ++ attrsMarkup h.attrs ++ "/>"
    else
      "<" ++ h.name ++ attrsMarkup h.attrs ++ ">" ++ markupAll h.name cs ++ "</" ++ h.name ++ ">"

/-- Several nodes, one after the other. -/
def markupAll (parent : String) : List Node → String
  | [] => ""
  | n :: r => n.markupIn parent ++ markupAll parent r
end

/-- The tree as markup. -/
def markup (n : Node) : String :=
  n.markupIn ""

end Node

end StickerPages.Markup
