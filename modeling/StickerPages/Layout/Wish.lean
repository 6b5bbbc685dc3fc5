import StickerPages.Layout.Sweep
import StickerPages.Settings.Basic

/-!
# From settings to a sweep

Settings hold values of any shape; a sweep needs names, classes and sizes. Two shapes stop it: a size
that is present but no text, and block names that cannot be gone through.
-/

namespace StickerPages.Layout

open Markup Style

/-- Why settings give no sweep. -/
inductive Fault where
  | sizeNotText
  | namesNotListed
deriving DecidableEq, Repr

/-- The names in a value that can be gone through: a list's texts, a map's keys, a text's
characters. -/
def names? : Value → Option (List String)
  | .list xs => some (xs.filterMap Value.text?)
  | .map es => some (es.filterMap fun e => (Value.scalar e.1).text?)
  | .scalar (.text s) => some (s.toList.map fun c => String.ofList [c])
  | _ => none

/-- A size in the settings: a text, or nothing. -/
def sizeWish (v : Value) : Except Fault String :=
  match v with
  | .scalar (.text s) => .ok s
  | v => if v.truthy then .error .sizeNotText else .ok ""

/-- The sizes of a page under the given settings. -/
def sizesFor (settings : Settings.Layout) (page : Node) : Except Fault Sizes := do
  let solo ← sizeWish settings.soloMaxSize
  let inline ← sizeWish settings.inlineMaxSize
  return Sizes.ofPage page solo inline

/-- What a sweep goes by under the given settings. -/
def rulesFor (settings : Settings.Layout) : Except Fault Rules :=
  match names? settings.blockTags with
  | some tags =>
    .ok ⟨tags, settings.stickerClass.plain, settings.containerClass.plain,
      settings.imageClass.plain⟩
  | none => .error .namesNotListed

/-- Sweeps a page under the given settings. -/
def sweepUnder (settings : Settings.Layout) (page : Node) : Except Fault (Node × Stats) := do
  let sizes ← sizesFor settings page
  let rules ← rulesFor settings
  return sweep rules sizes page

end StickerPages.Layout
