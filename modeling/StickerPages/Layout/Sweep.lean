import StickerPages.Layout.Verdict
import StickerPages.Style.Sizes

/-!
# Sweeping a page

A sweep goes through the blocks of a page in document order and through the stickers that lie in no
block. Nothing is remembered between sweeps: every verdict is made anew from the page as it stands
after the old markers have been taken off. In nested blocks a sticker is judged more than once, and
its innermost block, which comes last, has the last word.
-/

namespace StickerPages.Layout

open Markup Style

/-- What a sweep goes by. -/
structure Rules where
  blockTags : List String := ["p"]
  stickerClass : String := "sticker-emoji"
  containerClass : String := "sticker-solo-container"
  imageClass : String := "sticker-solo-image"
deriving DecidableEq, Repr

/-- What a sweep counts. -/
structure Stats where
  blocks : Nat := 0
  soloBlocks : Nat := 0
  images : Nat := 0
  soloImages : Nat := 0
  standalone : Nat := 0
deriving DecidableEq, Repr

/-- Changes several elements by their numbers, one after the other. -/
def modifyEach (f : Element → Element) (ids : List Nat) (page : Node) : Node :=
  ids.foldl (fun p i => p.modify i f) page

/-- Takes the markers off a block and the given images. -/
def clear (rules : Rules) (block : Nat) (images : List Nat) (page : Node) : Node :=
  modifyEach (Marker.remove rules.imageClass) images
    (page.modify block (Marker.remove rules.containerClass))

/-- The verdict about a block and the given images, from the page as it stands. -/
def classify (rules : Rules) (block : Nat) (images : List Nat) (page : Node) : Verdict :=
  match (Place.top page).find? block with
  | some b => judge rules.stickerClass b.node (images.filterMap b.find?)
  | none => ⟨false, []⟩

/-- Puts markers on a block and its images as the verdict says. -/
def mark (rules : Rules) (block : Nat) (images : List Nat) (v : Verdict) (page : Node) : Node :=
  let page := if v.solo then page.modify block (Marker.add rules.containerClass) else page
  modifyEach (Marker.add rules.imageClass) (((images.zip v.images).filter (·.2)).map (·.1)) page

/-- Takes old markers off, judges, and marks anew. -/
def reclassify (rules : Rules) (block : Nat) (images : List Nat) (page : Node) : Node × Verdict :=
  let cleared := clear rules block images page
  let v := classify rules block images cleared
  (mark rules block images v cleared, v)

/-- Gives each image the size that its verdict calls for. -/
def restyle (sizes : Sizes) (judged : List (Nat × Bool)) (page : Node) : Node :=
  judged.foldl (fun p j => p.modify j.1 (sizes.style j.2)) page

/-- Works on one block. A block without stickers has no verdict and loses its marker. -/
def sweepBlock (rules : Rules) (sizes : Sizes) (block : Nat) (page : Node) :
    Node × Option Verdict :=
  match (Place.top page).find? block with
  | none => (page, none)
  | some b =>
    if isBlock rules.blockTags b.node then
      let images := (stickers rules.stickerClass b).map (·.node.id)
      if images.isEmpty then (clear rules block [] page, none)
      else
        let (marked, v) := reclassify rules block images page
        (restyle sizes (images.zip v.images) marked, some v)
    else (page, none)

/-- The counts with one more block judged. -/
def Stats.count (s : Stats) (v : Verdict) : Stats :=
  { s with
    blocks := s.blocks + 1
    soloBlocks := s.soloBlocks + (if v.solo then 1 else 0)
    images := s.images + v.images.length
    soloImages := s.soloImages + v.images.count true }

/-- Works on one block and counts it. -/
def sweepCounting (rules : Rules) (sizes : Sizes) (s : Node × Stats) (block : Nat) : Node × Stats :=
  match sweepBlock rules sizes block s.1 with
  | (page, some v) => (page, s.2.count v)
  | (page, none) => (page, s.2)

/-- Works on one sticker that lies in no block: it never stands alone. -/
def sweepStandalone (rules : Rules) (sizes : Sizes) (page : Node) (image : Nat) : Node :=
  (page.modify image (Marker.remove rules.imageClass)).modify image (sizes.style false)

/-- Sweeps a page. -/
def sweep (rules : Rules) (sizes : Sizes) (page : Node) : Node × Stats :=
  let bs := (blocks rules.blockTags (Place.top page)).map (·.node.id)
  let (page, stats) := bs.foldl (sweepCounting rules sizes) (page, {})
  let alone :=
    (standalone rules.stickerClass rules.blockTags (Place.top page)).map (·.node.id)
  (alone.foldl (sweepStandalone rules sizes) page, { stats with standalone := alone.length })

end StickerPages.Layout
