import StickerPages.Log
import StickerPages.Settings.Basic
import StickerPages.Settings.Check

/-!
# The whole configuration

The four sections together, read from a map of maps. A key that names no setting is left out, and
reported. A section that is written as something else than a map is kept as it was written, since
nobody has checked it; whoever needs the section finds out.

Two environment variables go over what was read: one names the address of the catalog, the other the
level of reports.
-/

namespace StickerPages.Settings

/-- A section, or what is written in its place. -/
inductive Portion (σ : Type) where
  | section (s : σ)
  | other (v : Value)

/-- The section, if it is one. -/
def Portion.section? {σ : Type} : Portion σ → Option σ
  | .section s => some s
  | .other _ => none

/-- The portion as a value. -/
def Portion.toValue {σ : Type} [Section σ] : Portion σ → Value
  | .section s => .map (toEntries s)
  | .other v => v

/-- A whole configuration. -/
structure App where
  system : Portion System := .section {}
  plugin : Portion Plugin := .section {}
  layout : Portion Layout := .section {}
  loader : Portion Loader := .section {}

/-- Environment variables with their values. -/
abbrev Environment := List (String × String)

/-- The value of a variable that is set to something. -/
def Environment.valueOf? (env : Environment) (name : String) : Option String :=
  (env.lookup name).filter fun v => !v.isEmpty

/-! ## The environment's say -/

/-- Changes a section; there has to be one. -/
def Portion.update {σ : Type} (p : Portion σ) (f : σ → σ) : Except Fault (Portion σ) :=
  match p with
  | .section s => .ok (.section (f s))
  | .other _ => .error .sectionNotMap

/-- What the environment puts over a configuration. -/
def App.under (env : Environment) (a : App) : Except Fault App := do
  let plugin ← match env.valueOf? "STICKER_CONFIG_URL" with
    | some url => a.plugin.update fun p => { p with configUrl := .text url }
    | none => pure a.plugin
  let system ← match env.valueOf? "STICKER_LOG_LEVEL" with
    | some level => a.system.update fun s => { s with logLevel := .text level.capitalLetters }
    | none => pure a.system
  return { a with plugin, system }

/-- The default configuration. -/
def App.default (env : Environment) : App :=
  match (App.under env {}) with
  | .ok a => a
  | .error _ => {}

/-! ## Reading -/

/-- The report on a key that names no setting. -/
def unknownKey (title : String) (key : Scalar) : Report :=
  ⟨.warning, "忽略未知的配置欄位: " ++ title ++ "." ++ key.plain⟩

/-- Reads a section, with the reports on its unknown keys. -/
def readPortion (σ : Type) [Section σ] (v : Value) : Portion σ × Log :=
  match sectionEntries? v with
  | some es => (.section (ofEntries σ es), (unknownKeys σ es).map (unknownKey (Section.title σ)))
  | none => (.other v, [])

/-- Reads one entry of a configuration into the section it names. -/
def readEntry (r : App × Log) (e : Scalar × Value) : App × Log :=
  let (a, log) := r
  match e.1 with
  | .text "system" => let (p, l) := readPortion System e.2; ({ a with system := p }, log ++ l)
  | .text "plugin" => let (p, l) := readPortion Plugin e.2; ({ a with plugin := p }, log ++ l)
  | .text "layout" => let (p, l) := readPortion Layout e.2; ({ a with layout := p }, log ++ l)
  | .text "loader" => let (p, l) := readPortion Loader e.2; ({ a with loader := p }, log ++ l)
  | k => (a, log ++ [unknownKey "AppConfig" k])

/-- Reads a configuration without regard to the environment. -/
def readApp (es : Entries) : App × Log := es.foldl readEntry ({}, [])

/-- Reads a configuration; a value that is no map is handed back. The reports come first. -/
def App.ofValue (env : Environment) (v : Value) : Log × Except Fault (App ⊕ Value) :=
  match v with
  | .map es =>
    let (a, log) := readApp es
    (log, (a.under env).map .inl)
  | v => ([], .ok (.inr v))

/-- A configuration as a map of maps. -/
def App.toEntries (a : App) : Entries :=
  [(.text "system", a.system.toValue), (.text "plugin", a.plugin.toValue),
   (.text "layout", a.layout.toValue), (.text "loader", a.loader.toValue)]

end StickerPages.Settings
