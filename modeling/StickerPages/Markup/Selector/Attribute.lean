import StickerPages.Markup.Node
import StickerPages.Markup.Selector

/-!
# Attributes in selectors

The name of an attribute is compared without regard to the case of English letters, and of several that
are alike the first counts. A value is compared character by character, if asked for in folded form. A
line break that ends the value does not count where the value's end matters.
-/

namespace StickerPages.Markup

namespace Selector

/-- The value of the first attribute of this name, letter case ignored. -/
def attribute? (e : Element) (name : String) : Option AttrValue :=
  let folded := Text.asciiSmall name.toList
  (e.attrs.find? fun a => Text.asciiSmall a.1.toList = folded).map (·.2)

/-- The text of the first attribute of this name, or nothing. -/
def attributeText (e : Element) (name : String) : String :=
  match attribute? e name with
  | some v => v.joined
  | none => ""

/-- The attribute's text in small letters of the English alphabet. -/
def keyword (e : Element) (name : String) : String :=
  String.ofList (Text.asciiSmall (attributeText e name).toList)

/-- `part` occurs in `whole`. -/
def occurs (part : List Char) : List Char → Bool
  | [] => part.isEmpty
  | c :: r => part.isPrefixOf (c :: r) || occurs part r

/-- The runs between space characters. -/
def spaced (cs : List Char) : List (List Char) :=
  (cs.splitBy fun a b => isSpace a == isSpace b).filter fun w => !(w.any isSpace)

/-- What follows `front`, if the text begins with it. -/
def afterFront? (front : List Char) (cs : List Char) : Option (List Char) :=
  if front.isPrefixOf cs then some (cs.drop front.length) else none

end Selector

open Selector

/-- Compares two texts. No text begins or ends with the empty text, or contains it. -/
def Comparison.holds (how : Comparison) (given actual : List Char) : Bool :=
  match how with
  | .equals => (afterFront? given actual).any atEnd
  | .word => !given.isEmpty && !given.any isSpace && (spaced actual).contains given
  | .dash => (afterFront? given actual).any fun r => atEnd r || r.head? == some '-'
  | .starts => !given.isEmpty && given.isPrefixOf actual
  | .ends =>
    !given.isEmpty &&
      (given.isSuffixOf actual || (actual.getLast? == some '\n' && given.isSuffixOf actual.dropLast))
  | .contains => !given.isEmpty && occurs given actual

namespace Selector

/-- Compares an attribute's text with a given one. -/
def compare (how : Comparison) (foldCase : Bool) (given actual : String) : Bool :=
  let fold (s : String) : List Char := if foldCase then s.toList.map Text.folded else s.toList
  how.holds (fold given) (fold actual)

/-- The class is one of the element's words. -/
def hasClass (e : Element) (name : String) : Bool :=
  match attribute? e "class" with
  | some (.words ws) => ws.contains name
  | some v => (spaced v.joined.toList).contains name.toList
  | none => false

end Selector

end StickerPages.Markup
