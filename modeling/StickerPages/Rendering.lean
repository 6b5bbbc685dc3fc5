import StickerPages.Catalog.Loader
import StickerPages.Content.Filler
import StickerPages.Layout.Wish
import StickerPages.Markup.Reader
import StickerPages.Settings.Keeper

/-!
# Rendering a file

The whole way of one page, from file to file. The configuration is read and settles how much is
reported; the catalog is taken from a file or fetched; the page's shortcodes become pictures, its
stickers are marked and sized in one sweep, and the page is written out.

Whatever goes wrong ends the work with a report and leaves every file as it is. A user who breaks off
ends it too. Only reports that are grave enough at their time are made.
-/

namespace StickerPages.Rendering

open Settings

/-- Everything that the work can see and change. -/
structure Desk where
  disk : Disk
  env : Environment := []
  site : Remote.Site
  /-- Reports below this level are not made. -/
  level : Level := .info
  log : Log := []
  /-- What has been printed. -/
  printed : String := ""

/-- Why the work ends early. -/
inductive Halt where
  | brokenOff
  | failed (reason : String)
deriving DecidableEq, Repr

/-- Work at a desk. -/
abbrev Work := ExceptT Halt (StateM Desk)

/-- What was asked for. An empty name counts as none, except for the configuration. -/
structure Request where
  input : String
  output : Option String := none
  catalog : Option String := none
  config : String := "config.yaml"
deriving DecidableEq, Repr

/-- Makes those of some reports that are grave enough. -/
def Desk.report (d : Desk) (log : Log) : Desk := { d with log := d.log ++ log.from d.level }

/-- Makes reports. -/
def report (log : Log) : Work Unit := modify fun d => d.report log

/-- Reports something of interest. -/
def inform (text : String) : Work Unit := report [⟨.info, text⟩]

/-- Goes on with a value, or ends the work. -/
def orFail {ε α : Type} (reason : ε → String) : Except ε α → Work α
  | .ok a => pure a
  | .error e => throw (.failed (reason e))

/-! ## The steps -/

/-- Why reporting cannot be set up, in words. -/
def reportingReason : Reporting.Fault → String
  | .notMap => "配置必須是字典格式"
  | .formatNotText => "日誌格式必須是字串"
  | .noField => "日誌格式沒有欄位"
  | .notLevel name => "未知的日誌等級 " ++ name

/-- Why a file cannot be used, in words. -/
def diskReason (f : Disk.Fault) : String := (FileFault.disk f).message

/-- Why a page cannot be swept, in words. -/
def layoutReason : Layout.Fault → String
  | .sizeNotText => "尺寸必須是字串"
  | .namesNotListed => "標籤必須是列表"

/-- Reads the configuration and sets reporting up. -/
def configure (path : String) : Work App := do
  let d ← get
  let keeper : Keeper := { disk := d.disk, env := d.env }
  let (keeper, kept) := keeper.load path
  report keeper.log
  let reporting ← orFail reportingReason (reportingOf kept.value)
  modify fun d => { d with level := reporting.level }
  report [reporting.announcement]
  let (keeper, kept) := ({ keeper with log := [] } : Keeper).loadApp path false
  report keeper.log
  return kept.value

/-- A section, which has to be one. -/
def sectionOf {σ : Type} (p : Portion σ) : Work σ :=
  match p with
  | .section s => pure s
  | .other v => throw (.failed ("區段必須是字典格式: " ++ v.plain))

/-- The catalog in a file; the built-in one if the file is at fault. -/
def catalogIn (d : Disk) (path : String) : List Catalog.Group × Log :=
  let read : Except String (List Catalog.Group) := do
    let s ← (d.readText (Path.ofString path)).mapError diskReason
    let v ← (Remote.readJson s).mapError Remote.Trouble.message
    (Catalog.ofValue v).mapError Catalog.Fault.message
  match read with
  | .ok gs => (gs, [])
  | .error reason =>
    (Catalog.builtin, [⟨.error, "載入表情目錄 " ++ path ++ " 失敗，使用預設表情: " ++ reason⟩])

/-- The catalog that the configuration leads to. A load that leaves nothing loaded was broken off. -/
def fetchCatalog (a : App) : Work (List Catalog.Group) := do
  let settings ← sectionOf a.loader
  match settings.baseUrl with
  | .scalar (.text base) =>
    if (Remote.base? base.toList).isNone then throw (.failed "base_url 無效")
    let d ← get
    let loader : Catalog.Loader := {
      settings, plugin := a.plugin.section?, site := { d.site with base } }
    let loader := loader.load .null
    set { d with site := loader.site }
    report loader.log
    if !loader.store.loaded then throw .brokenOff
    return loader.store.groups
  | _ => throw (.failed "base_url 必須是字串")

/-- The catalog to fill the page from. -/
def catalogFor (r : Request) (a : App) : Work (List Catalog.Group) :=
  match r.catalog with
  | some path => do
    let (gs, log) := catalogIn (← get).disk path
    report log
    return gs
  | none => fetchCatalog a

/-- Fills a page, sweeps it and gives its markup. -/
def render (a : App) (table : Content.Table) (content : String) : Work String := do
  let plugin ← sectionOf a.plugin
  match Content.renderStyled? table plugin.stickerStyle content with
  | none => throw (.failed "sticker_style 必須是字串")
  | some filled =>
    let layout ← sectionOf a.layout
    let (page, stats) ← orFail layoutReason (Layout.sweepUnder layout (Markup.page filled))
    inform ("🎨 版面分類完成: " ++ toString stats.images ++ " 張區塊表情（" ++
      toString stats.soloImages ++ " 張 solo），" ++ toString stats.standalone ++ " 張獨立表情")
    return page.markup

/-- Where the page goes: where it was asked for, or beside its source. -/
def target (r : Request) : Path :=
  match r.output with
  | some path => Path.ofString path
  | none => (Path.ofString r.input).withEnding ".stickers.html"

/-- The whole work. -/
def fulfil (r : Request) : Work Unit := do
  let a ← configure r.config
  let source := Path.ofString r.input
  if !(← get).disk.holds source then throw (.failed ("找不到 HTML 檔案: " ++ source.written))
  let groups ← catalogFor r a
  let table := Catalog.shortcodeMap groups
  inform ("📦 目錄共有 " ++ toString groups.length ++ " 個分組、" ++ toString table.length ++
    " 個圖片短代碼")
  let content ← orFail diskReason ((← get).disk.readText source)
  let markup ← render a table content
  let disk ← orFail diskReason ((← get).disk.write (target r) markup.toUTF8)
  modify fun d => { d with disk }
  inform ("✅ 已輸出 " ++ (target r).written)

/-! ## The command line -/

/-- How the program is called. -/
def usage : String :=
  "用法: python main.py <input.html> [output.html] [catalog.json] [config.yaml]\n"

/-- A name on the command line that counts as given. -/
def named? (args : List String) (n : Nat) : Option String := (args[n]?).filter fun s => !s.isEmpty

/-- What a command line asks for; nothing if it is empty. -/
def Request.ofArgs? (args : List String) : Option Request :=
  match args with
  | [] => none
  | input :: r =>
    some { input, output := named? r 0, catalog := named? r 1, config := (r[2]?).getD "config.yaml" }

/-- Does what a command line asks for. -/
def run (args : List String) (d : Desk) : Desk :=
  match Request.ofArgs? args with
  | none => { d with printed := d.printed ++ usage }
  | some r =>
    match (fulfil r).run.run d with
    | (.ok (), d) => d
    | (.error .brokenOff, d) => d.report [⟨.info, "👋 收到中斷信號，正在關閉..."⟩]
    | (.error (.failed reason), d) => d.report [⟨.error, "❌ 表情渲染失敗: " ++ reason⟩]

end StickerPages.Rendering
