import Mathlib.Data.List.Find
import Mathlib.Data.List.TakeWhile
import StickerPages.Proofs.Ancestry
import StickerPages.Proofs.Markers
import StickerPages.Proofs.Retouch

/-!
# What a sweep writes does not change what it reads

A sweep judges blocks and stickers while it rewrites their attributes. It reads names, texts and the
sticker class; it writes markers and styles. `Gentle` says of a change of heads that it leaves alone
what is read, and then every verdict is the same before and after: `isSolo_retouch`,
`standsAlone_retouch`. So a sweep may be understood as if all verdicts had been made at its start.

How a verdict is put together does not depend on the kind of change. The lemmas about an arbitrary
retouch say so, each with the questions below it as hypotheses; a kind of change then has only the
questions about one node to answer.

`Settled` is what a sweep is for: every block and every sticker carries its marker exactly if the
page as it stands calls for it.
-/

namespace StickerPages.Layout

open Markup

/-- Rules that a sweep can go by: the three classes are words and differ, there are block names, and
images are no blocks. -/
structure Rules.Sound (rules : Rules) : Prop where
  stickerWord : IsWord rules.stickerClass
  containerWord : IsWord rules.containerClass
  imageWord : IsWord rules.imageClass
  sticker_ne_container : rules.stickerClass ≠ rules.containerClass
  sticker_ne_image : rules.stickerClass ≠ rules.imageClass
  container_ne_image : rules.containerClass ≠ rules.imageClass
  someTags : rules.blockTags ≠ []
  img_not_block : "img" ∉ rules.blockTags

/-- What a sweep needs of its rules to know a sticker again, and to tell the two markers apart. The
markers need not be words for that, and there may be no block names. -/
structure Rules.Distinct (rules : Rules) : Prop where
  stickerWord : IsWord rules.stickerClass
  sticker_ne_container : rules.stickerClass ≠ rules.containerClass
  sticker_ne_image : rules.stickerClass ≠ rules.imageClass
  container_ne_image : rules.containerClass ≠ rules.imageClass
  img_not_block : "img" ∉ rules.blockTags

theorem Rules.Sound.distinct {rules : Rules} (hs : rules.Sound) : rules.Distinct :=
  ⟨hs.stickerWord, hs.sticker_ne_container, hs.sticker_ne_image, hs.container_ne_image,
    hs.img_not_block⟩

instance (rules : Rules) : Coe rules.Sound rules.Distinct :=
  ⟨Rules.Sound.distinct⟩

/-- The block holds a sticker, and only stickers, line breaks and blank text. -/
def isSolo (rules : Rules) (b : Place) : Bool :=
  !(stickers rules.stickerClass b).isEmpty && onlyStickers rules.stickerClass b.node

/-- What the block `b` makes of a sticker in it. -/
def aloneIn (rules : Rules) (b : Node) (p : Place) : Bool :=
  onlyStickers rules.stickerClass b || betweenBreaks p

/-- The sticker stands alone: it lies in a block, and the innermost one holds only stickers, or
there is a line break on both sides. -/
def standsAlone (rules : Rules) (p : Place) : Bool :=
  match p.above.find? fun a => isBlock rules.blockTags a.node with
  | some b => aloneIn rules b.node p
  | none => false

/-- Every block and every sticker carries its marker exactly if the page calls for it. -/
structure Settled (rules : Rules) (page : Node) : Prop where
  blocks : ∀ b ∈ Layout.blocks rules.blockTags (Place.top page),
    carries rules.containerClass b.node = isSolo rules b
  images : ∀ p ∈ stickers rules.stickerClass (Place.top page),
    carries rules.imageClass p.node = standsAlone rules p

/-- A change of heads that leaves alone what verdicts are made from. -/
structure Gentle (rules : Rules) (page : Node) (g : Nat → Element → Element) : Prop where
  name : ∀ i h, (g i h).name = h.name
  sticker : ∀ i h,
    (g i h).classes.contains rules.stickerClass = h.classes.contains rules.stickerClass
  /-- A search finds the same stickers. -/
  found : ∀ i h cs, .element i h cs ∈ page.nodes →
    (Findable rules.stickerClass (g i h) ↔ Findable rules.stickerClass h)

/-! ## Any retouch -/

section

variable {r : Retouch} {rules : Rules} {page : Node} {p : Place}

/-- Blank texts are passed over, so the nearest sibling is the first that is none. -/
theorem retouch_nearest {ns : List Node}
    (hblank : ∀ n ∈ ns, isBlankText (n.retouch r) = isBlankText n) :
    ((ns.map (Node.retouch r)).dropWhile isBlankText).head? =
      ((ns.dropWhile isBlankText).head?).map (Node.retouch r) := by
  have hfind (ms : List Node) : (ms.dropWhile isBlankText).head? =
      ms.find? fun m => !isBlankText m := by
    rw [List.find?_eq_head?_dropWhile_not]
    simp
  rw [hfind, hfind, List.find?_map]
  congr 1
  exact List.find?_congr fun m hm => by rw [Function.comp_apply, hblank m hm]

theorem retouch_betweenBreaks (hbreak : ∀ n : Node, (n.retouch r).isNamed "br" = n.isNamed "br")
    (hblank : ∀ n, n ∈ p.before ∨ n ∈ p.after → isBlankText (n.retouch r) = isBlankText n) :
    betweenBreaks (p.retouch r) = betweenBreaks p := by
  have hline (n : Node) : isLineBreak (n.retouch r) = isLineBreak n := hbreak n
  unfold betweenBreaks previous? next?
  rw [Place.before_retouch, Place.after_retouch, retouch_nearest fun n hn => hblank n (.inl hn),
    retouch_nearest fun n hn => hblank n (.inr hn), Option.any_map, Option.any_map]
  simp only [hline]

theorem retouch_onlyStickers {stickerClass : String} {b : Node}
    (hfits : ∀ c ∈ b.children, fitsSolo stickerClass (c.retouch r) = fitsSolo stickerClass c) :
    onlyStickers stickerClass (b.retouch r) = onlyStickers stickerClass b := by
  unfold onlyStickers
  rw [Node.children_retouch, List.all_map, Bool.eq_iff_iff, List.all_eq_true, List.all_eq_true]
  exact forall₂_congr fun c hc => by rw [Function.comp_apply, hfits c hc]

theorem retouch_blocks {tags : List String}
    (hblock : ∀ n, isBlock tags (n.retouch r) = isBlock tags n) :
    blocks tags (Place.top (page.retouch r)) =
      (blocks tags (Place.top page)).map (Place.retouch r) := by
  unfold blocks
  rw [← Place.top_retouch, Place.all_retouch, List.filter_map]
  congr 2
  exact funext fun q => hblock q.node

theorem retouch_stickers {stickerClass : String} (hfound : ∀ q ∈ p.inside,
      isFound stickerClass (q.node.retouch r) = isFound stickerClass q.node) :
    stickers stickerClass (p.retouch r) = (stickers stickerClass p).map (Place.retouch r) := by
  unfold stickers
  rw [Place.inside_retouch, List.filter_map]
  congr 1
  exact List.filter_congr hfound

/-- The innermost block around a place stays the innermost one. -/
theorem retouch_innermost {tags : List String}
    (hblock : ∀ n, isBlock tags (n.retouch r) = isBlock tags n) :
    ((p.retouch r).above.find? fun a => isBlock tags a.node) =
      (p.above.find? fun a => isBlock tags a.node).map (Markup.Level.retouch r) := by
  rw [Place.above_retouch, List.find?_map]
  congr 2
  exact funext fun a => hblock a.node

theorem retouch_standsAlone (hblock : ∀ n, isBlock rules.blockTags (n.retouch r) =
      isBlock rules.blockTags n)
    (halone : ∀ b ∈ p.above, isBlock rules.blockTags b.node = true →
      aloneIn rules (b.node.retouch r) (p.retouch r) = aloneIn rules b.node p) :
    standsAlone rules (p.retouch r) = standsAlone rules p := by
  unfold standsAlone
  rw [retouch_innermost hblock]
  cases hb : p.above.find? fun a => isBlock rules.blockTags a.node with
  | none => rfl
  | some b => exact halone b (List.mem_of_find?_eq_some hb) (by simpa using List.find?_some hb)

end

/-! ## Gentle changes, about one node -/

section

variable {g : Nat → Element → Element}

theorem isBlankText_retouch (n : Node) :
    isBlankText (n.retouch (.heads g)) = isBlankText n := by
  cases n <;> rfl

theorem isNamed_retouch (hname : ∀ i h, (g i h).name = h.name) (n : Node) (name : String) :
    (n.retouch (.heads g)).isNamed name = n.isNamed name := by
  cases n with
  | leaf i k s => rfl
  | element i h cs =>
      simp only [Node.retouch, Node.isNamed, Retouch.heads]
      rw [hname i h]

theorem isBlock_retouch (hname : ∀ i h, (g i h).name = h.name) (tags : List String) (n : Node) :
    isBlock tags (n.retouch (.heads g)) = isBlock tags n := by
  cases n with
  | leaf i k s => rfl
  | element i h cs =>
      simp only [Node.retouch, isBlock, Retouch.heads]
      rw [hname i h]

end

namespace Gentle

variable {rules : Rules} {page : Node} {g : Nat → Element → Element}

theorem fitsSolo_retouch (hg : Gentle rules page g) (n : Node) :
    fitsSolo rules.stickerClass (n.retouch (.heads g)) = fitsSolo rules.stickerClass n := by
  cases n with
  | leaf i k s => rfl
  | element i h cs =>
      have h1 := isNamed_retouch hg.name (.element i h cs) "br"
      simp only [Node.retouch, Retouch.heads, fitsSolo, isSticker, isLineBreak] at h1 ⊢
      rw [h1, hg.name i h, hg.sticker i h]

theorem onlyStickers_retouch (hg : Gentle rules page g) (n : Node) :
    onlyStickers rules.stickerClass (n.retouch (.heads g)) =
      onlyStickers rules.stickerClass n :=
  retouch_onlyStickers fun c _ => hg.fitsSolo_retouch c

theorem isFound_retouch (hg : Gentle rules page g) {n : Node} (hn : n ∈ page.nodes) :
    isFound rules.stickerClass (n.retouch (.heads g)) = isFound rules.stickerClass n := by
  cases n with
  | leaf i k s => rfl
  | element i h cs => exact Bool.eq_iff_iff.mpr (hg.found i h cs hn)

/-! ## Gentle changes, about places -/

theorem blocks_retouch (hg : Gentle rules page g) :
    blocks rules.blockTags (Place.top (page.retouch (.heads g))) =
      (blocks rules.blockTags (Place.top page)).map (Place.retouch (.heads g)) :=
  retouch_blocks (isBlock_retouch hg.name _)

theorem stickers_retouch (hg : Gentle rules page g) {p : Place} (hp : p ∈ (Place.top page).all) :
    stickers rules.stickerClass (p.retouch (.heads g)) =
      (stickers rules.stickerClass p).map (Place.retouch (.heads g)) := by
  refine retouch_stickers fun q hq => ?_
  have hqp : q ∈ (Place.top page).all :=
    (Place.all_sublist hp).subset (List.mem_cons_of_mem _ hq)
  exact hg.isFound_retouch (Place.node_mem_nodes hqp)

theorem isSolo_retouch (hg : Gentle rules page g) {b : Place} (hb : b ∈ (Place.top page).all) :
    isSolo rules (b.retouch (.heads g)) = isSolo rules b := by
  unfold isSolo
  rw [hg.stickers_retouch hb, List.isEmpty_map, Place.node_retouch, hg.onlyStickers_retouch]

theorem aloneIn_retouch (hg : Gentle rules page g) (b : Node) (p : Place) :
    aloneIn rules (b.retouch (.heads g)) (p.retouch (.heads g)) = aloneIn rules b p := by
  have hbreaks : betweenBreaks (p.retouch (.heads g)) = betweenBreaks p :=
    retouch_betweenBreaks (fun n => isNamed_retouch hg.name n "br") fun n _ => isBlankText_retouch n
  unfold aloneIn
  rw [hg.onlyStickers_retouch, hbreaks]

/-- **A gentle change alters no verdict.** -/
theorem standsAlone_retouch (hg : Gentle rules page g) (p : Place) :
    standsAlone rules (p.retouch (.heads g)) = standsAlone rules p :=
  retouch_standsAlone (isBlock_retouch hg.name _) fun b _ _ => hg.aloneIn_retouch b.node p

/-- Two gentle changes in a row are one. -/
theorem comp (hg : Gentle rules page g) {f : Nat → Element → Element}
    (hf : Gentle rules (page.retouch (.heads g)) f) :
    Gentle rules page fun i h => f i (g i h) where
  name i h := (hf.name i _).trans (hg.name i h)
  sticker i h := (hf.sticker i _).trans (hg.sticker i h)
  found i h cs hn := by
    have hmem : Node.element i (g i h) (cs.map (Node.retouch (.heads g))) ∈
        (page.retouch (.heads g)).nodes := by
      have h' := List.mem_map_of_mem (f := Node.retouch (.heads g)) hn
      rw [← Node.nodes_retouch, Node.retouch, Node.retouchAll_eq] at h'
      exact h'
    exact (hf.found i _ _ hmem).trans (hg.found i h cs hn)

end Gentle

end StickerPages.Layout
