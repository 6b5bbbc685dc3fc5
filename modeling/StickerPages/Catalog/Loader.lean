import StickerPages.Catalog.Builtin
import StickerPages.Catalog.Store
import StickerPages.Log
import StickerPages.Remote.Body
import StickerPages.Settings.Basic

/-!
# Fetching the catalog in use

A loader puts one catalog after another into a store. Loading tries its sources in a fixed order:

1. the custom catalog, if the plugin's settings ask for it; if it is empty or cannot be had, the next
   source is tried;
2. the catalog at the address that was asked for, or else at the address in the settings;
3. the built-in catalog, if there is no address.

Trouble with the second source, or with the settings themselves, ends in the built-in catalog. So each
load puts exactly one catalog into the store, unless the user breaks off. Settings that say nothing
are asked for at the server first.
-/

namespace StickerPages.Catalog

open Remote

/-- What fetches catalogs. -/
structure Loader where
  settings : Settings.Loader := {}
  /-- The plugin's settings, if there are any. -/
  plugin : Option Settings.Plugin := some {}
  store : Store := {}
  site : Site
  log : Log := []
  /-- The calls of the store's subscribers, so far. -/
  calls : List Store.Call := []

namespace Loader

/-- Adds a report. -/
def report (l : Loader) (level : Level) (text : String) : Loader :=
  { l with log := l.log ++ [⟨level, text⟩] }

/-- Fetches data. -/
def fetch (l : Loader) (address : Value) : Loader × Except Trouble Value :=
  let (site, body) := l.site.get address
  ({ l with site }, body.bind readBytes)

/-- A field of what counts as a map: whatever does not count as present has no fields. -/
def fieldOf (v : Value) (name : String) : Except Trouble Value :=
  match v.orElse (.map []) with
  | .map es => .ok ((Entries.at? es name).getD .null)
  | v => .error (.notMap v.kindName)

/-- The plugin settings that a server sends, if it sends any: they are a JSON text inside data. -/
def settingsIn (v : Value) : Except Trouble (Option Settings.Plugin) := do
  let basic ← fieldOf (← fieldOf v "data") "basic"
  if !basic.truthy then return none
  match basic with
  | .scalar (.text s) => return some (.ofOutside (← readJson s))
  | v => throw (.notText v.kindName)

/-- Asks the server for the plugin's settings. Those it sends are kept; the answer is the default if
it sends none. -/
def loadPlugin (l : Loader) : Loader × Except Trouble Settings.Plugin :=
  let (l, data) := l.fetch l.settings.configMapPath
  match data.bind settingsIn with
  | .ok (some p) => ({ l with plugin := some p }, .ok p)
  | .ok none => (l, .ok {})
  | .error .brokenOff => (l, .error .brokenOff)
  | .error t => (l.report .warning ("載入插件配置失敗: " ++ t.message), .ok {})

/-- The custom catalog, if there is one. -/
def loadCustom (l : Loader) : Loader × Except Trouble (Option (List Group)) :=
  let (l, data) := l.fetch l.settings.customStickersPath
  match data.bind fun v => if v.truthy then (readGroups v).map some else .ok none with
  | .ok gs => (l, .ok gs)
  | .error .brokenOff => (l, .error .brokenOff)
  | .error t => (l.report .warning ("載入自訂表情失敗，改用其他來源: " ++ t.message), .ok none)

/-- The name of the built-in source. -/
def builtinSource : String := "default"

/-- The name of the custom source. -/
def customSource : String := "custom"

/-- The catalog at an address and the name of its source; the built-in one if there is no address. -/
def loadFrom (l : Loader) (address : Value) : Loader × Except Trouble (List Group × String) :=
  if address.truthy then
    let l := l.report .info ("從 " ++ address.plain ++ " 載入表情")
    let (l, data) := l.fetch address
    (l, (data.bind readGroups).map (·, address.plain))
  else (l, .ok (builtin, builtinSource))

/-- The catalog that these settings lead to. -/
def chooseUnder (l : Loader) (p : Settings.Plugin) (address : Value) :
    Loader × Except Trouble (List Group × String) :=
  if p.customMode.truthy then
    match (l.report .info "從自訂模式載入表情").loadCustom with
    | (l, .ok (some gs)) => (l, .ok (gs, customSource))
    | (l, .ok none) => l.loadFrom (address.orElse p.configUrl)
    | (l, .error t) => (l, .error t)
  else l.loadFrom (address.orElse p.configUrl)

/-- The catalog to put in use, and the name of its source. -/
def choose (l : Loader) (address : Value) : Loader × Except Trouble (List Group × String) :=
  match l.plugin with
  | none => (l, .error .noSettings)
  | some p =>
    if p.isEmpty then
      match l.loadPlugin with
      | (l, .ok p) => l.chooseUnder p address
      | (l, .error t) => (l, .error t)
    else l.chooseUnder p address

/-- Puts a catalog in use. -/
def install (l : Loader) (groups : List Group) (source : String) : Loader :=
  let (store, calls) := l.store.replace groups
  { l with store := { store with loaded := true }, calls := l.calls ++ calls }.report .info
    ("已載入 " ++ toString groups.length ++ " 個分組、" ++ toString (count groups) ++ " 個表情 (" ++
      source ++ ")")

/-- Puts the chosen catalog in use, or the built-in one; nothing if the user broke off. -/
def settle (l : Loader) (chosen : Except Trouble (List Group × String)) : Loader :=
  match chosen with
  | .ok (gs, source) => l.install gs source
  | .error .brokenOff => l
  | .error t =>
    (l.report .error ("載入表情失敗，使用預設表情: " ++ t.message)).install builtin builtinSource

/-- Marks whether a catalog is being fetched. -/
def setLoading (l : Loader) (loading : Bool) : Loader :=
  { l with store := { l.store with loading } }

/-- Loads a catalog unless one is loaded. -/
def load (l : Loader) (address : Value) : Loader :=
  if l.store.loaded then l
  else
    let (l, chosen) := (l.setLoading true).choose address
    (l.settle chosen).setLoading false

/-- Loads a catalog in any case. -/
def reload (l : Loader) (address : Value) : Loader :=
  { l with store := { l.store with loaded := false } }.load address

/-- Takes other plugin settings. -/
def setPlugin (l : Loader) (plugin : Option Settings.Plugin) : Loader := { l with plugin }

end Loader

end StickerPages.Catalog
