import StickerPages.Disk
import StickerPages.Log
import StickerPages.Value
import StickerPages.Yaml.Cursor

/-!
# What makes a configuration unusable

A configuration is checked before it is read: it has to be a map, its layout section too, and the two
settings that say when to sweep have to be numbers of milliseconds. `check` names the first fault.
Nothing else is checked.

A configuration that names no source of stickers is usable; that is only remarked upon.
-/

namespace StickerPages.Settings

/-- Why there is nothing to read in a file. -/
inductive FileFault where
  | disk (f : Disk.Fault)
  | yaml (f : Yaml.Fault)
  /-- The data is no map. -/
  | notMap
deriving DecidableEq, Repr

/-- The fault in words. -/
def FileFault.message : FileFault → String
  | .disk .missing => "找不到檔案"
  | .disk .isFolder => "這是一個目錄"
  | .disk .notUtf8 => "檔案不是 UTF-8"
  | .yaml f => f.message
  | .notMap => "頂層必須是映射"

/-- What is wrong with a configuration. -/
inductive Fault where
  | notMap
  | layoutNotMap
  | badDebounce (value : Value)
  | badDelay (value : Value)
  /-- The delays are neither a list nor anything else with items. -/
  | delaysNotListed (kind : String)
  /-- Something in the environment belongs into a section that is none. -/
  | sectionNotMap
  /-- The file cannot be opened, or breaks the grammar. -/
  | unreadable (path reason : String)
  /-- The file holds what it should not hold. -/
  | unfit (f : FileFault)

/-- The fault in words. -/
def Fault.message : Fault → String
  | .notMap => "配置必須是字典格式"
  | .layoutNotMap => "layout 區段必須是字典格式"
  | .badDebounce v => "layout.debounce_ms 必須是正整數: " ++ v.plain
  | .badDelay v => "layout.delayed_sweeps_ms 含有無效延遲: " ++ v.plain
  | .delaysNotListed kind => "無法逐一讀取 " ++ kind
  | .sectionNotMap => "區段必須是字典格式"
  | .unreadable path reason => "無法讀取配置 " ++ path ++ ": " ++ reason
  | .unfit f => f.message

/-- A section as a map: what does not count as present is an empty one. -/
def sectionEntries? (v : Value) : Option Entries :=
  match v.orElse (.map []) with
  | .map es => some es
  | _ => none

/-- A number of milliseconds that is at least `least`. -/
def isMillis (least : Int) (v : Value) : Bool :=
  match v with
  | .scalar (.int n) => least ≤ n
  | _ => false

/-- The items of what counts as present; anything else has none. -/
def itemsOf? (v : Value) : Option (List Value) := (v.orElse (.list [])).items?

/-- The faults of the layout section. -/
def checkLayout (es : Entries) : Except Fault Unit := do
  let debounce := (Entries.at? es "debounce_ms").getD (.int 100)
  if !isMillis 1 debounce then throw (.badDebounce debounce)
  let delays := (Entries.at? es "delayed_sweeps_ms").getD .null
  match itemsOf? delays with
  | none => throw (.delaysNotListed delays.kindName)
  | some ds =>
    match ds.find? fun d => !isMillis 0 d with
    | some d => throw (.badDelay d)
    | none => return ()

/-- A setting under its name inside the file, or else under its name outside. -/
def eitherName (es : Entries) (inside outside : String) (fallback : Value) : Value :=
  ((Entries.at? es inside).or (Entries.at? es outside)).getD fallback

/-- The configuration names a source of stickers, or says nothing readable about it. -/
def namesSource (es : Entries) : Bool :=
  match sectionEntries? ((Entries.at? es "plugin").getD .null) with
  | none => true
  | some p =>
    (eitherName p "enable_custom_mode" "enableCustomMode" (.bool false)).truthy ||
      (eitherName p "sticker_config_url" "stickerConfigUrl" (.text "")).truthy

/-- The remark on a configuration that names no source. -/
def noSource : Report := ⟨.info, "未設置 sticker_config_url，將使用內建預設表情"⟩

/-- Checks a configuration; what is remarked upon comes with the verdict. -/
def check (v : Value) : Except Fault Log := do
  match v with
  | .map es =>
    match sectionEntries? ((Entries.at? es "layout").getD .null) with
    | none => throw .layoutNotMap
    | some layout =>
      checkLayout layout
      return if namesSource es then [] else [noSource]
  | _ => throw .notMap

end StickerPages.Settings
