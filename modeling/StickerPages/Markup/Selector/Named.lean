import StickerPages.Markup.Selector

/-!
# Conditions with names

What the names behind a colon mean. Some are conditions of their own; the others are put together from
conditions on names, attributes and elements around, and are asked about inside a frame.
-/

namespace StickerPages.Markup.Condition

/-! ## Building blocks -/

/-- The element has this name. -/
def called (name : String) : Condition := .named none name

/-- The element has one of these names. -/
def calledOneOf (names : List String) : Condition :=
  .oneOf false (names.map fun n => [called n])

/-- The attribute is this text. -/
def reads (name value : String) : Condition := .attr name .equals value (name == "type")

/-- The attribute is missing. -/
def lacks (name : String) : Condition := .noneOf false [[.hasAttr name]]

/-- The attribute is missing or empty. -/
def lacksText (name : String) : Condition := .oneOf false [[lacks name], [reads name ""]]

/-- The attribute is there and is not empty. -/
def hasText (name : String) : List Condition := [.hasAttr name, .noneOf false [[reads name ""]]]

/-- The field is of one of these kinds. -/
def kinds (names : List String) : List (List Condition) := names.map fun n => [reads "type" n]

/-- The field is of one of these kinds or of none. -/
def kindsOrNone (names : List String) : Condition :=
  .oneOf false ([lacks "type"] :: [reads "type" ""] :: kinds names)

/-- A list of alternatives that is asked about inside a frame. -/
def confinedTo (alternatives : List (List Condition)) : Condition :=
  .oneOf true (alternatives.map ordered)

/-- A position among all siblings, or among those of the same name. -/
def placed (fromBack sameName : Bool) (n : Int) : Condition :=
  .position ⟨fromBack, sameName, .once n⟩ false [[]]

/-! ## Conditions on forms -/

/-- A link to somewhere. -/
def link : Condition := confinedTo [[calledOneOf ["a", "area"], .hasAttr "href"]]

/-- A choice that is taken. -/
def checked : Condition := confinedTo [
  [.oneOf false [[called "input", reads "type" "checkbox"], [called "input", reads "type" "radio"]],
    .hasAttr "checked"],
  [called "option", .hasAttr "selected"]]

/-- What is taken or done unless the reader says otherwise. -/
def preset : Condition := confinedTo [
  [checked],
  [calledOneOf ["button", "input"], reads "type" "submit", .reached .descendant [called "form"],
    .sendsForm]]

/-- A choice that is neither taken nor refused. -/
def indeterminate : Condition := confinedTo [
  [called "input", reads "type" "checkbox", .hasAttr "indeterminate"],
  [called "input", reads "type" "radio", lacksText "name", lacks "checked"],
  [called "progress", lacks "value"],
  [called "input", reads "type" "radio", lacks "checked", .undecided] ++ hasText "name"]

/-- What a set of fields switches off together. -/
def controls : List (List Condition) :=
  [called "input", .noneOf false [[reads "type" "hidden"]]] ::
    ["button", "select", "textarea", "fieldset"].map fun n => [called n]

/-- What can be switched off. -/
def switchable : Condition :=
  .oneOf false (controls ++ [[called "optgroup"], [called "option"]])

/-- Switched off, by itself or by what it lies in. The heading of a set stays switched on. -/
def disabled : Condition :=
  let off (name : String) : List Condition := [called name, .hasAttr "disabled"]
  confinedTo [
    [switchable, .hasAttr "disabled"],
    [called "option", .reached .child (off "optgroup")],
    [.oneOf false controls, .reached .child (off "fieldset")],
    [.oneOf false controls, .reached .descendant
      [.noneOf false [[called "legend", placed false true 1]], .reached .child (off "fieldset")]]]

/-- Not switched off. -/
def enabled : Condition := confinedTo [[switchable, .noneOf false [[disabled]]]]

/-- Fields that can be asked for. -/
def askable : Condition := calledOneOf ["input", "select", "textarea"]

/-- A field that shows a hint because nothing is written in it. -/
def placeholderShown : Condition := confinedTo [
  [called "input",
    kindsOrNone ["text", "search", "url", "tel", "email", "password", "number"],
    lacksText "value"] ++ hasText "placeholder",
  [called "textarea", .blank] ++ hasText "placeholder"]

/-- What a reader can write in. -/
def readWrite : Condition := confinedTo [
  [.oneOf false [[called "textarea"],
      [called "input", kindsOrNone ["date", "datetime-local", "email", "month", "number", "password",
        "search", "tel", "text", "time", "url", "week"]]],
    .noneOf false [[.hasAttr "readonly"], [disabled]]],
  [.oneOf false [[reads "contenteditable" ""], [.attr "contenteditable" .equals "true" true]]]]

/-- A field with bounds whose value lies between them, or does not. -/
def withBounds (within : Bool) : Condition := confinedTo [
  [called "input", .bounded within,
    .oneOf false (kinds ["date", "month", "week", "time", "datetime-local", "number", "range"]),
    .oneOf false [[.hasAttr "min"], [.hasAttr "max"]]]]

/-! ## Names -/

/-- Names for what only a page on a screen can be. -/
def screenNames : List String :=
  ["active", "autofill", "buffering", "current", "focus", "focus-visible", "focus-within",
   "fullscreen", "future", "host", "hover", "local-link", "modal", "past", "paused",
   "picture-in-picture", "playing", "popover-open", "seeking", "stalled", "target", "target-within",
   "user-invalid", "user-valid", "visited", "volume-locked"]

/-- The conditions that a name without brackets means. -/
def named? (name : String) : Option (List Condition) :=
  match name with
  | "first-child" => some [placed false false 1]
  | "last-child" => some [placed true false 1]
  | "first-of-type" => some [placed false true 1]
  | "last-of-type" => some [placed true true 1]
  | "only-child" => some [placed false false 1, placed true false 1]
  | "only-of-type" => some [placed false true 1, placed true true 1]
  | "empty" => some [.empty]
  | "root" => some [.root]
  | "scope" => some [.scope]
  | "defined" => some [.defined]
  | "link" | "any-link" => some [link]
  | "checked" => some [checked]
  | "default" => some [preset]
  | "indeterminate" => some [indeterminate]
  | "disabled" => some [disabled]
  | "enabled" => some [enabled]
  | "required" => some [confinedTo [[askable, .hasAttr "required"]]]
  | "optional" => some [confinedTo [[askable, lacks "required"]]]
  | "placeholder-shown" => some [placeholderShown]
  | "read-write" => some [readWrite]
  | "read-only" => some [confinedTo [[.noneOf false [[readWrite]]]]]
  | "in-range" => some [withBounds true]
  | "out-of-range" => some [withBounds false]
  | "open" => some [confinedTo [[calledOneOf ["details", "dialog"], .hasAttr "open"]]]
  | "muted" => some [confinedTo [[calledOneOf ["video", "audio"], .hasAttr "muted"]]]
  | _ => if screenNames.contains name then some [.never] else none

end StickerPages.Markup.Condition
