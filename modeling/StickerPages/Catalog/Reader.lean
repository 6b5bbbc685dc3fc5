import StickerPages.Catalog.Basic
import StickerPages.Catalog.Shortcode
import StickerPages.Value

/-!
# Reading catalogs

A catalog is a map from group names to groups, and a group is written in one of two ways. A *typed*
group names its type and lists its items, each with an icon; in a group of pictures the icon is a
piece of markup that holds the addresses. A *flat* group maps names to addresses or texts. Each group
may be written either way.

A catalog is read as a whole or not at all: the first fault, in the order of writing, is the answer.
-/

namespace StickerPages.Catalog

/-- What is wrong with a catalog. -/
inductive Fault where
  | notMap (kind : String)
  | itemNotMap (group : String) (item : Value)
  | itemLacks (group field : String) (item : Value)
  | containerNotList (group : String)
  | iconNotText (group : String) (icon : Value)
  | groupNotMap (group : String)

/-- The fault in words. -/
def Fault.message : Fault → String
  | .notMap kind => "表情目錄必須是物件，收到 " ++ kind
  | .itemNotMap g item => "分組 " ++ g ++ " 的項目必須是物件: " ++ item.shown
  | .itemLacks g field item => "分組 " ++ g ++ " 的項目缺少 " ++ field ++ " 欄位: " ++ item.shown
  | .containerNotList g => "分組 " ++ g ++ " 的 container 必須是陣列"
  | .iconNotText g icon => "分組 " ++ g ++ " 的 icon 必須是字串: " ++ icon.shown
  | .groupNotMap g => "分組 " ++ g ++ " 既不是 OwO 格式也不是名稱映射"

/-! ## Addresses in markup -/

/-- A quote mark. -/
def isQuoteMark (c : Char) : Bool := c == '"' || c == '\''

/-- What stands between two quote marks at the start, if anything does. -/
def quoted? : List Char → Option (List Char)
  | [] => none
  | c :: r =>
    if isQuoteMark c then
      let inner := r.takeWhile fun d => !isQuoteMark d
      if inner.isEmpty || (r.drop inner.length).isEmpty then none else some inner
    else none

/-- The first quoted value behind `key`, wherever `key` stands. -/
def valueBehind? (key : List Char) : List Char → Option (List Char)
  | [] => none
  | c :: r =>
    if key.isPrefixOf (c :: r) then
      match quoted? ((c :: r).drop key.length) with
      | some v => some v
      | none => valueBehind? key r
    else valueBehind? key r

/-- The original's and the preview's address in an icon. Each stands in for the other. -/
def addresses (icon : String) : String × String :=
  let find (key : String) := (valueBehind? key.toList icon.toList).map String.ofList
  let source := find "src="
  let original := (find "origin=").getD (source.getD "")
  (completeUrl original, completeUrl (source.getD original))

/-! ## Groups -/

/-- An item's map, or the fault that it is none. -/
def itemEntries (group : String) (item : Value) : Except Fault Entries :=
  match item with
  | .map es => .ok es
  | v => .error (.itemNotMap group v)

/-- A field of an item. -/
def itemField (group : String) (item : Value) (es : Entries) (field : String) :
    Except Fault Value :=
  match Entries.at? es field with
  | some v => .ok v
  | none => .error (.itemLacks group field item)

/-- An icon's text. -/
def iconText (group : String) (icon : Value) : Except Fault String :=
  match icon with
  | .scalar (.text s) => .ok s
  | v => .error (.iconNotText group v)

/-- An item of a group of pictures. -/
def pictureOf (group tag : String) (item : Value) : Except Fault Sticker := do
  let es ← itemEntries group item
  let icon ← itemField group item es "icon"
  let text ← itemField group item es "text"
  let (original, preview) := addresses (← iconText group icon)
  return { name := text.plain, preview, original, alt := text.plain,
           shortcode := shortcodeOf tag text.plain }

/-- An item of a group of texts. -/
def textOf (group : String) (item : Value) : Except Fault Sticker := do
  let es ← itemEntries group item
  let icon ← itemField group item es "icon"
  let text ← iconText group icon
  return .ofText text text

/-- The stickers of a typed group. -/
def typedStickers (group tag : String) (type container : Value) : Except Fault (List Sticker) :=
  match container with
  | .list items =>
    if type.isScalar (.text "image") then items.mapM (pictureOf group tag)
    else items.mapM (textOf group)
  | _ => .error (.containerNotList group)

/-- A text that is an address. -/
def isAddress (s : String) : Bool := s.startsWith "http" || s.startsWith "/"

/-- A sticker of a flat group. -/
def flatSticker (tag : String) (name : Scalar) (v : Value) : Sticker :=
  match v with
  | .scalar (.text s) =>
    if isAddress s then
      { name := name.plain, preview := s, alt := name.plain,
        shortcode := shortcodeOf tag name.plain }
    else .ofText name.plain s
  | v => .ofText name.plain v.plain

/-- The stickers of a group, whichever way it is written. -/
def stickersOf (group tag : String) (v : Value) : Except Fault (List Sticker) :=
  match v with
  | .map es =>
    match Entries.at? es "type", Entries.at? es "container" with
    | some type, some container => typedStickers group tag type container
    | _, _ => .ok (es.map fun e => flatSticker tag e.1 e.2)
  | _ => .error (.groupNotMap group)

/-- One group. -/
def groupOf (name : Scalar) (v : Value) : Except Fault Group := do
  let tag := tagOf name.plain
  return { name := name.plain, tag, stickers := ← stickersOf name.plain tag v }

/-- A catalog; nothing at all is an empty one. -/
def ofValue (v : Value) : Except Fault (List Group) :=
  match v with
  | .scalar .null => .ok []
  | .map es => es.mapM fun e => groupOf e.1 e.2
  | v => .error (.notMap v.kindName)

end StickerPages.Catalog
