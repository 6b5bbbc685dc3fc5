import StickerPages.Value

/-!
# Settings

The four sections of a configuration. A section is a record of fixed fields, but nobody checks what
the fields hold: a value is kept as it was written, and whoever uses it deals with values of the
wrong shape.

`Field` ties a field's written name to its place in the record, so that reading a section from a map,
writing it back and comparing it with its default are each said once, for every section.
-/

namespace StickerPages.Settings

/-- A field of the record `σ` under its written name. -/
structure Field (σ : Type) where
  name : String
  get : σ → Value
  set : Value → σ → σ

/-- A record of settings. -/
class Section (σ : Type) where
  /-- The name under which the section's messages speak of it. -/
  title : String
  fields : List (Field σ)
  default : σ

/-- How much is reported, and in which form. -/
structure System where
  logLevel : Value := .text "INFO"
  logFormat : Value := .text "%(asctime)s %(levelname)s %(name)s: %(message)s"
  debugMode : Value := .bool false

/-- Where stickers come from, how they are styled, and which editors offer them. -/
structure Plugin where
  customMode : Value := .bool false
  configUrl : Value := .text ""
  defaultEditor : Value := .null
  vditorEditor : Value := .null
  bytemdEditor : Value := .null
  willowEditor : Value := .null
  stickerStyle : Value := .text ""

/-- The regions of a page that hold its reading matter. -/
def contentSelectors : List String :=
  [".content", ".post-content", ".article-content", ".entry-content", ".markdown-body", "article",
   "#post-comment", ".tk-comments", ".comments"]

/-- The events that announce that a page has gone to another content. -/
def navigationEvents : List String :=
  ["pjax:complete", "pjax:end", "swup:contentReplaced", "turbo:load", "turbolinks:load"]

/-- How stickers are found, marked, sized and watched. -/
structure Layout where
  blockTags : Value := .list [.text "p"]
  stickerClass : Value := .text "sticker-emoji"
  containerClass : Value := .text "sticker-solo-container"
  imageClass : Value := .text "sticker-solo-image"
  soloMaxSize : Value := .text ""
  inlineMaxSize : Value := .text ""
  debounceMs : Value := .int 100
  delayedSweepsMs : Value := .list [.int 300, .int 1000]
  contentSelectors : Value := .list (contentSelectors.map Value.text)
  navigationEvents : Value := .list (navigationEvents.map Value.text)

/-- Where the server is and how long it may take. -/
structure Loader where
  baseUrl : Value := .text "http://localhost:8090"
  configMapPath : Value := .text "/api/v1alpha1/configmaps/editor-sticker-configmap"
  customStickersPath : Value := .text "/apis/editor-sticker.ncii.cn/v1alpha1/custom-stickers"
  timeout : Value := .scalar (.float 10.0)

instance : Section System where
  title := "SystemConfig"
  fields := [
    ⟨"log_level", (·.logLevel), fun v s => { s with logLevel := v }⟩,
    ⟨"log_format", (·.logFormat), fun v s => { s with logFormat := v }⟩,
    ⟨"debug_mode", (·.debugMode), fun v s => { s with debugMode := v }⟩]
  default := {}

instance : Section Plugin where
  title := "PluginConfig"
  fields := [
    ⟨"enable_custom_mode", (·.customMode), fun v s => { s with customMode := v }⟩,
    ⟨"sticker_config_url", (·.configUrl), fun v s => { s with configUrl := v }⟩,
    ⟨"enable_default_editor", (·.defaultEditor), fun v s => { s with defaultEditor := v }⟩,
    ⟨"enable_vditor_editor", (·.vditorEditor), fun v s => { s with vditorEditor := v }⟩,
    ⟨"enable_bytemd_editor", (·.bytemdEditor), fun v s => { s with bytemdEditor := v }⟩,
    ⟨"enable_willow_editor", (·.willowEditor), fun v s => { s with willowEditor := v }⟩,
    ⟨"sticker_style", (·.stickerStyle), fun v s => { s with stickerStyle := v }⟩]
  default := {}

instance : Section Layout where
  title := "LayoutConfig"
  fields := [
    ⟨"block_tags", (·.blockTags), fun v s => { s with blockTags := v }⟩,
    ⟨"sticker_class", (·.stickerClass), fun v s => { s with stickerClass := v }⟩,
    ⟨"solo_container_class", (·.containerClass), fun v s => { s with containerClass := v }⟩,
    ⟨"solo_image_class", (·.imageClass), fun v s => { s with imageClass := v }⟩,
    ⟨"solo_max_size", (·.soloMaxSize), fun v s => { s with soloMaxSize := v }⟩,
    ⟨"inline_max_size", (·.inlineMaxSize), fun v s => { s with inlineMaxSize := v }⟩,
    ⟨"debounce_ms", (·.debounceMs), fun v s => { s with debounceMs := v }⟩,
    ⟨"delayed_sweeps_ms", (·.delayedSweepsMs), fun v s => { s with delayedSweepsMs := v }⟩,
    ⟨"content_selectors", (·.contentSelectors), fun v s => { s with contentSelectors := v }⟩,
    ⟨"navigation_events", (·.navigationEvents), fun v s => { s with navigationEvents := v }⟩]
  default := {}

instance : Section Loader where
  title := "LoaderConfig"
  fields := [
    ⟨"base_url", (·.baseUrl), fun v s => { s with baseUrl := v }⟩,
    ⟨"config_map_path", (·.configMapPath), fun v s => { s with configMapPath := v }⟩,
    ⟨"custom_stickers_path", (·.customStickersPath),
      fun v s => { s with customStickersPath := v }⟩,
    ⟨"timeout", (·.timeout), fun v s => { s with timeout := v }⟩]
  default := {}

/-- The names that plugin settings have outside a configuration file. -/
def outsideNames : List (String × String) :=
  [("enableCustomMode", "enable_custom_mode"),
   ("stickerConfigUrl", "sticker_config_url"),
   ("enableDefaultEditor", "enable_default_editor"),
   ("enableVditorEditor", "enable_vditor_editor"),
   ("enableBytemdEditor", "enable_bytemd_editor"),
   ("enableWillowEditor", "enable_willow_editor"),
   ("stickerStyle", "sticker_style")]

/-- A key by its name inside a configuration file. -/
def insideName (k : Scalar) : Scalar :=
  match k with
  | .text s => .text ((outsideNames.lookup s).getD s)
  | k => k

/-- The field of this name. -/
def fieldNamed? (σ : Type) [Section σ] (k : Scalar) : Option (Field σ) :=
  match insideName k with
  | .text s => (Section.fields : List (Field σ)).find? fun f => f.name == s
  | _ => none

/-- Writes the fields of a map into a record, in the order of the map; keys that name no field are
left out. -/
def writeFields {σ : Type} [Section σ] (s : σ) (es : Entries) : σ :=
  es.foldl (fun s e => match fieldNamed? σ e.1 with
    | some f => f.set e.2 s
    | none => s) s

/-- The keys of a map that name no field. -/
def unknownKeys (σ : Type) [Section σ] (es : Entries) : List Scalar :=
  (es.map (·.1)).filter fun k => (fieldNamed? σ k).isNone

/-- A record read from a map: its fields where it names them, the default elsewhere. -/
def ofEntries (σ : Type) [Section σ] (es : Entries) : σ :=
  writeFields Section.default es

/-- A record as a map under the written names. -/
def toEntries {σ : Type} [Section σ] (s : σ) : Entries :=
  (Section.fields : List (Field σ)).map fun f => (.text f.name, f.get s)

/-- Plugin settings from outside; whatever is no map gives the default. -/
def Plugin.ofOutside (v : Value) : Plugin :=
  match v with
  | .map es => ofEntries Plugin es
  | _ => {}

/-- Every plugin setting equals its default, numbers compared across kinds. -/
def Plugin.isEmpty (p : Plugin) : Bool :=
  (Section.fields : List (Field Plugin)).all fun f =>
    match f.get (Section.default : Plugin) with
    | .scalar s => (f.get p).isScalar s
    | _ => false

/-- A switch is off only if it is literally false. -/
def isOff (v : Value) : Bool :=
  match v with
  | .scalar (.bool b) => !b
  | _ => false

/-- Which editors offer stickers: the default one, then those known by a name. -/
def Plugin.editors (p : Plugin) : List Bool :=
  [p.defaultEditor, p.vditorEditor, p.bytemdEditor, p.willowEditor].map fun v => !isOff v

end StickerPages.Settings
