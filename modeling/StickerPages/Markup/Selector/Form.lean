import StickerPages.Markup.Frame
import StickerPages.Markup.Selector.Attribute

/-!
# Forms

Which button sends a form when none is pressed, and whether one of several choices is taken. Both are
asked inside one frame, and a form inside a form ends the search for the button.
-/

namespace StickerPages.Markup.Selector

/-- The place holds a button that sends a form. -/
def isSender (p : Place) : Bool :=
  match p.element? with
  | some e => (e.name == "input" || e.name == "button") && keyword e "type" == "submit"
  | none => false

/-- The place is that of the first button that sends the form around it. -/
def isFirstSender (p : Place) : Bool :=
  match (p.around true).find? (·.name == "form") with
  | none => false
  | some form =>
    -- a form inside comes before the button and ends the search
    match (form.within true).find? fun q => q.name == "form" || isSender q with
    | some q => q.name != "form" && q.node.id == p.node.id
    | none => false

/-- The form around a place, or the outermost element around it if there is none. -/
def formOf? (p : Place) : Option Place :=
  let around := p.around true
  (around.find? (·.name == "form")).or around.getLast?

/-- The place holds a choice of this name that is taken. -/
def isTaken (name : String) (p : Place) : Bool :=
  match p.element? with
  | none => false
  | some e =>
    let reads (key : String) (holds : AttrValue → Bool) : Bool :=
      e.attrs.any fun a => Text.asciiSmall a.1.toList == key.toList && holds a.2
    e.name == "input" &&
      reads "type" (fun v => Text.asciiSmall v.joined.toList == "radio".toList) &&
      reads "name" (·.joined == name) && reads "checked" fun _ => true

/-- No other choice of the same name in the same form is taken; `none` for a choice without a form. -/
def isUndecided? (p : Place) (e : Element) : Option Bool :=
  (formOf? p).map fun form =>
    !(form.within true).any fun q =>
      q.node.id != p.node.id && isTaken (attributeText e "name") q &&
        ((formOf? q).map (·.node.id)) == some form.node.id

end StickerPages.Markup.Selector
