import StickerPages.Content.Shortcodes
import StickerPages.Log
import StickerPages.Remote.Body
import StickerPages.Settings.Basic

/-!
# Filling pages from a remote catalog

A filler knows where the catalog lies and keeps the table of shortcodes that it read last, together
with the source it came from. Pages are filled from the table; a page whose table cannot be had is
handed back as it came.

There are two sources. In custom mode the catalog is asked for anew each time. Otherwise it is asked
for at the address in the settings, unless the table in hand is said to come from that address. A
request that fails leaves the table in hand as it is, and the page is filled from that. Only if the
user breaks off is there neither table nor page.
-/

namespace StickerPages.Content

open Remote

/-- From shortcodes to picture addresses. -/
abbrev Table := List (String × String)

/-- A page filled with stickers in a style; nothing if the style is no text and a sticker needs it.
An absent style is no style. -/
def renderStyled? (table : Table) (style : Value) (content : String) : Option String :=
  match (style.orElse (.text "")).text? with
  | some s => some (render table s content)
  | none => if callsFor table content.toList then none else some (render table "" content)

/-- What fills pages. -/
structure Filler where
  settings : Settings.Loader := {}
  /-- The plugin's settings, if there are any. -/
  plugin : Option Settings.Plugin := some {}
  site : Site
  /-- The table that was read last. -/
  table : Table := []
  /-- Where that table came from. -/
  source : Option String := none
  log : Log := []

namespace Filler

/-- Adds a report. -/
def report (f : Filler) (level : Level) (text : String) : Filler :=
  { f with log := f.log ++ [⟨level, text⟩] }

/-- The name of the source in custom mode. -/
def customSource : String := "custom"

/-- The table of the catalog in a body. -/
def readTable (body : String) : Except Trouble Table := do
  return Catalog.shortcodeMap (← readGroups (← readBody body))

/-- Keeps a table and its source. -/
def keep (f : Filler) (source : String) (table : Table) : Filler :=
  { f with table, source := some source }

/-- Fetches the custom catalog. An empty body is a catalog without stickers, and is not kept. -/
def loadCustom (f : Filler) : Filler × Except Trouble Table :=
  let (site, body) := f.site.get f.settings.customStickersPath
  let f := { f with site }
  if body.toOption == some "" then (f, .ok [])
  else
    match body.bind readTable with
    | .error .brokenOff => (f, .error .brokenOff)
    | .error t => (f.report .error ("解析自訂表情失敗: " ++ t.message), .ok f.table)
    | .ok table =>
      ((f.keep customSource table).report .info
        ("已載入 " ++ toString table.length ++ " 個自訂表情"), .ok table)

/-- Fetches the catalog at an address. -/
def loadFrom (f : Filler) (address : Value) : Filler × Except Trouble Table :=
  let (site, body) := f.site.get address
  let f := { f with site }
  match body.bind readTable with
  | .error .brokenOff => (f, .error .brokenOff)
  | .error t =>
    (f.report .error ("從 " ++ address.plain ++ " 載入表情配置失敗: " ++ t.message), .ok f.table)
  | .ok table =>
    ((f.keep address.plain table).report .info
      ("已從 " ++ address.plain ++ " 載入 " ++ toString table.length ++ " 個表情"), .ok table)

/-- The table in hand is said to come from this address. -/
def isFrom (f : Filler) (address : Value) : Bool :=
  match f.source with
  | some s => address.text? == some s && !f.table.isEmpty
  | none => false

/-- The table by these settings. -/
def loadUnder (f : Filler) (p : Settings.Plugin) : Filler × Except Trouble Table :=
  if p.customMode.truthy then f.loadCustom
  else if !p.configUrl.truthy then (f, .ok [])
  else if f.isFrom p.configUrl then (f, .ok f.table)
  else f.loadFrom p.configUrl

/-- The table to fill pages from. -/
def load (f : Filler) : Filler × Except Trouble Table :=
  match f.plugin with
  | none => (f, .error .noSettings)
  | some p => f.loadUnder p

/-- Fills a page from a table; nothing if the style is no text and a sticker needs it. -/
def fillFrom? (f : Filler) (table : Table) (content : String) : Option String :=
  match f.plugin with
  | none => some content
  | some p =>
    if table.isEmpty || content.isEmpty then some content
    else renderStyled? table p.stickerStyle content

/-- Fills a page. No page at all stays no page; the outer level is nothing if the user broke off, or
if the style is no text and a sticker needs it. -/
def handle (f : Filler) (content : Option String) : Filler × Option (Option String) :=
  match f.load with
  | (f, .error .brokenOff) => (f, none)
  | (f, .error t) => (f.report .error ("處理文章表情失敗: " ++ t.message), some content)
  | (f, .ok table) =>
    (f, match content with
      | none => some none
      | some page => (f.fillFrom? table page).map some)

/-- Takes other plugin settings. -/
def setPlugin (f : Filler) (plugin : Option Settings.Plugin) : Filler := { f with plugin }

end Filler

end StickerPages.Content
