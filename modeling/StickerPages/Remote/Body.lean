import StickerPages.Json.Reader
import StickerPages.Remote.Encoding
import StickerPages.Remote.Site

/-!
# Bodies as data

A body is a JSON text. Some servers wrap the data once more and send a JSON text that holds a JSON
text; both are read alike.
-/

namespace StickerPages.Remote

/-- A JSON text. -/
def readJson (text : String) : Except Trouble Value :=
  match Json.read? text with
  | some v => .ok v
  | none => .error .notJson

/-- A body, wrapped or not. -/
def readBody (body : String) : Except Trouble Value := do
  match ← readJson body with
  | .scalar (.text inner) => readJson inner
  | v => return v

/-- A body whose bytes tell how its characters are written. -/
def readBytes (body : String) : Except Trouble Value :=
  match recode? body with
  | some text => readBody text
  | none => .error .notJson

/-- The groups of a catalog. -/
def readGroups (v : Value) : Except Trouble (List Catalog.Group) :=
  (Catalog.ofValue v).mapError Trouble.badCatalog

end StickerPages.Remote
