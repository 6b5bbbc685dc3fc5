import StickerPages.Layout.Wish
import StickerPages.Live.Document
import StickerPages.Log
import StickerPages.Markup.Selector.Match
import StickerPages.Markup.Selector.Reader

/-!
# Watching the reading matter

A watcher looks at the regions of a page that hold reading matter, or at the whole body if there are
none. A change matters to it when nodes came or went, or when it happened inside a block of text.

The regions are looked up once, when the watcher connects. What the page becomes later does not move
them; `connect` does.
-/

namespace StickerPages.Live

open Markup

/-- What a watcher goes by, and the observation it has while it is connected. -/
structure Watcher where
  /-- Selectors of the regions; `none` if they cannot be put together to one. -/
  selectors : Option (List String) := some Settings.contentSelectors
  blockTags : List String := ["p"]
  observation : Option Nat := none
  roots : List Nat := []
deriving Repr

namespace Watcher

/-- The watcher that the settings ask for. Selectors may be missing, and then the usual ones hold. -/
def under (settings : Settings.Layout) : Watcher where
  selectors := match settings.contentSelectors with
    | .scalar .null => some Settings.contentSelectors
    | .list xs => xs.mapM Value.text?
    | v => Layout.names? v
  blockTags := (Layout.names? settings.blockTags).getD []

/-- The regions that the selectors name, or `none` if these are refused. -/
def areas? (w : Watcher) (f : Forest) : Option (List Nat) :=
  match w.selectors with
  | none => none
  | some [] => some []
  | some ss =>
    match (Selector.read (",".intercalate ss)).bind (·.select f.page) with
    | .ok ps => some (ps.map (·.node.id))
    | .error _ => none

/-- What a watcher looks at: its regions, or the body if there are none. -/
def rootsOn (w : Watcher) (f : Forest) : List Nat :=
  match w.areas? f with
  | some (a :: r) => a :: r
  | _ => [f.body]

/-- A change matters if it happened inside a block or if nodes came or went. -/
def minds (w : Watcher) (f : Forest) (c : Change) : Bool :=
  ((f.place? c.target).bind (Layout.closest? w.blockTags)).isSome ||
    !c.added.isEmpty || !c.removed.isEmpty

variable {ℓ ω : Type}

/-- Ends the observation, if there is one. -/
def disconnect (w : Watcher) (d : Document ℓ ω) : Watcher × Document ℓ ω :=
  ({ w with observation := none, roots := [] },
    match w.observation with
    | some key => d.disconnect key
    | none => d)

/-- Starts to observe the regions as they are now, instead of those observed so far. Selectors that
are none are reported, and the body is observed. -/
def connect (who : ω) (w : Watcher) (d : Document ℓ ω) : Watcher × Document ℓ ω × Log :=
  let (w, d) := w.disconnect d
  let roots := w.rootsOn d.forest
  let (d, key) := d.observe who roots
  let log := if (w.areas? d.forest).isNone then
      [⟨.warning, "內容容器選擇器無效，改為觀察整個文件: " ++
        ",".intercalate (w.selectors.getD [])⟩]
    else []
  ({ w with observation := some key, roots }, d, log)

end Watcher

end StickerPages.Live
