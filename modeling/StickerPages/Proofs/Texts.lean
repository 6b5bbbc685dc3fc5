import StickerPages.Proofs.Settling

/-!
# A text outside every block is nobody's business

The watcher passes over a text that is replaced outside every block. This module says that it may:
no verdict is made from such a text. A block is judged by its children, and a sticker by the block
around it and by its siblings, which lie in that block too; so every text that is read lies in a
block.

Replacing a text is the retouch `Retouch.text`. It leaves every element as it is, and every leaf but
the one replaced, so the questions about one node come out as before unless the node is that leaf.
-/

namespace StickerPages.Layout

open Markup

variable {rules : Rules} {page : Node} {old new : Nat} {s : String}

/-! ## Questions about one node -/

theorem isNamed_text (n : Node) (name : String) :
    (n.retouch (.text old new s)).isNamed name = n.isNamed name := by
  cases n <;> rfl

theorem isBlock_text (tags : List String) (n : Node) :
    isBlock tags (n.retouch (.text old new s)) = isBlock tags n := by
  cases n <;> rfl

theorem isFound_text (stickerClass : String) (n : Node) :
    isFound stickerClass (n.retouch (.text old new s)) = isFound stickerClass n := by
  cases n <;> rfl

theorem carries_text (name : String) (n : Node) :
    carries name (n.retouch (.text old new s)) = carries name n := by
  cases n <;> rfl

/-- A leaf of another number stays as it is. -/
theorem retouch_text_leaf {i : Nat} (hi : i ≠ old) (k : TextKind) (t : String) :
    (Node.leaf i k t).retouch (.text old new s) = .leaf i k t := by
  simp [Node.retouch, Retouch.text, hi]

theorem isBlankText_text {n : Node} (hn : n.id ≠ old) :
    isBlankText (n.retouch (.text old new s)) = isBlankText n := by
  cases n with
  | leaf i k t => rw [retouch_text_leaf (i := i) hn]
  | element i h cs => rfl

theorem fitsSolo_text (stickerClass : String) {n : Node} (hn : n.id ≠ old) :
    fitsSolo stickerClass (n.retouch (.text old new s)) = fitsSolo stickerClass n := by
  cases n with
  | leaf i k t => rw [retouch_text_leaf (i := i) hn]
  | element i h cs => rfl

/-- Elements keep their numbers, so blocks and stickers do. -/
theorem id_text_of_isBlock {tags : List String} {n : Node} (h : isBlock tags n = true) :
    (n.retouch (.text old new s)).id = n.id := by
  cases n with
  | leaf i k t => cases h
  | element i h cs => rfl

theorem id_text_of_isFound {stickerClass : String} {n : Node} (h : isFound stickerClass n = true) :
    (n.retouch (.text old new s)).id = n.id := by
  cases n with
  | leaf i k t => cases h
  | element i h cs => rfl

/-! ## Questions about places -/

theorem blocks_text (tags : List String) :
    blocks tags (Place.top (page.retouch (.text old new s))) =
      (blocks tags (Place.top page)).map (Place.retouch (.text old new s)) :=
  retouch_blocks (isBlock_text tags)

theorem stickers_text (stickerClass : String) (p : Place) :
    stickers stickerClass (p.retouch (.text old new s)) =
      (stickers stickerClass p).map (Place.retouch (.text old new s)) :=
  retouch_stickers fun q _ => isFound_text stickerClass q.node

theorem standalone_text (stickerClass : String) (tags : List String) :
    standalone stickerClass tags (Place.top (page.retouch (.text old new s))) =
      (standalone stickerClass tags (Place.top page)).map (Place.retouch (.text old new s)) := by
  unfold standalone
  rw [← Place.top_retouch, stickers_text, List.filter_map]
  congr 1
  refine List.filter_congr fun q _ => ?_
  rw [Function.comp_apply, enclosing?, retouch_innermost (isBlock_text tags), Option.isNone_map,
    Option.isNone_map, enclosing?, Option.isNone_map]

/-- What is inside a block lies in one. -/
theorem blocksAround_ne_nil (hn : page.Numbered) {b p : Place} (hb : b ∈ (Place.top page).all)
    (hblock : isBlock rules.blockTags b.node = true) (hp : p ∈ b.inside) :
    blocksAround rules p ≠ [] := by
  have houter : b.node ∈ p.outer.map (·.node) :=
    List.mem_map_of_mem (Place.mem_outer_of_mem_inside hn hb hp)
  rw [outer_nodes] at houter
  exact List.ne_nil_of_mem (List.mem_filter.mpr ⟨houter, hblock⟩)

/-! ## What a page is judged to be -/

/-- A block, the stickers in it, and what is decided about them. -/
structure Finding where
  block : Nat
  stickers : List Nat
  verdict : Verdict
deriving DecidableEq

/-- All blocks with what is decided about them, and the stickers that lie in none. -/
structure Survey where
  blocks : List Finding
  standalone : List Nat
deriving DecidableEq

/-- What the page as it stands is judged to be, whatever markers it carries. -/
def survey (rules : Rules) (page : Node) : Survey where
  blocks := (blocks rules.blockTags (Place.top page)).map fun b =>
    ⟨b.node.id, (stickers rules.stickerClass b).map (·.node.id),
      judge rules.stickerClass b.node (stickers rules.stickerClass b)⟩
  standalone := (standalone rules.stickerClass rules.blockTags (Place.top page)).map (·.node.id)

/-! ## Verdicts -/

/-- What has this number lies in no block. -/
def Outside (rules : Rules) (page : Node) (i : Nat) : Prop :=
  ∀ q ∈ (Place.top page).all, q.node.id = i → blocksAround rules q = []

namespace Outside

/-- The children of a block lie in a block. -/
theorem ne_child (hout : Outside rules page old) {b : Place} (hb : b ∈ (Place.top page).all)
    (hblock : isBlock rules.blockTags b.node = true) : ∀ c ∈ b.node.children, c.id ≠ old := by
  intro c hc hid
  obtain ⟨q, hq, hnode, habove⟩ := Place.exists_child hb hc
  have hnil := hout q hq (hnode ▸ hid)
  rw [blocksAround, habove, List.map_cons, List.filter_cons, if_pos hblock] at hnil
  cases hnil

/-- So do the siblings of what lies in a block. -/
theorem ne_sibling (hn : page.Numbered) (hout : Outside rules page old) {p : Place}
    (hp : p ∈ (Place.top page).all) (hin : blocksAround rules p ≠ []) {m : Node}
    (hm : m ∈ p.before ∨ m ∈ p.after) : m.id ≠ old := by
  intro hid
  obtain ⟨q, hq, hnode, habove⟩ := Place.exists_sibling hn hp hm
  refine hin ?_
  rw [blocksAround, ← habove]
  exact hout q hq (hnode ▸ hid)

theorem onlyStickers_text (hout : Outside rules page old) {b : Place}
    (hb : b ∈ (Place.top page).all) (hblock : isBlock rules.blockTags b.node = true) :
    onlyStickers rules.stickerClass (b.node.retouch (.text old new s)) =
      onlyStickers rules.stickerClass b.node :=
  retouch_onlyStickers fun c hc => fitsSolo_text _ (hout.ne_child hb hblock c hc)

theorem betweenBreaks_text (hn : page.Numbered) (hout : Outside rules page old) {p : Place}
    (hp : p ∈ (Place.top page).all) (hin : blocksAround rules p ≠ []) :
    betweenBreaks (p.retouch (.text old new s)) = betweenBreaks p :=
  retouch_betweenBreaks (fun n => isNamed_text n "br") fun _ hsibling =>
    isBlankText_text (ne_sibling hn hout hp hin hsibling)

theorem isSolo_text (hout : Outside rules page old) {b : Place} (hb : b ∈ (Place.top page).all)
    (hblock : isBlock rules.blockTags b.node = true) :
    isSolo rules (b.retouch (.text old new s)) = isSolo rules b := by
  unfold isSolo
  rw [stickers_text, List.isEmpty_map, Place.node_retouch, hout.onlyStickers_text hb hblock]

theorem standsAlone_text (hn : page.Numbered) (hout : Outside rules page old) {p : Place}
    (hp : p ∈ (Place.top page).all) :
    standsAlone rules (p.retouch (.text old new s)) = standsAlone rules p := by
  refine retouch_standsAlone (isBlock_text _) fun b hb hblock => ?_
  obtain ⟨l, houter⟩ := Place.exists_outer hb
  have hball := (Place.mem_of_mem_outer hn hp houter).1
  have hin : blocksAround rules p ≠ [] :=
    List.ne_nil_of_mem (List.mem_filter.mpr ⟨List.mem_map_of_mem hb, hblock⟩)
  unfold aloneIn
  rw [hout.onlyStickers_text hball hblock, hout.betweenBreaks_text hn hp hin]

/-- **Replacing a text outside every block leaves a settled page settled.** -/
theorem settled (hn : page.Numbered) (hout : Outside rules page old)
    (hs : Settled rules page) : Settled rules (page.retouch (.text old new s)) where
  blocks := by
    intro b' hb'
    rw [blocks_text] at hb'
    obtain ⟨b, hb, rfl⟩ := List.mem_map.mp hb'
    obtain ⟨hball, hblock⟩ := mem_blocks.mp hb
    rw [hout.isSolo_text hball hblock, Place.node_retouch, carries_text]
    exact hs.blocks b hb
  images := by
    intro p' hp'
    rw [← Place.top_retouch, stickers_text] at hp'
    obtain ⟨p, hp, rfl⟩ := List.mem_map.mp hp'
    have hpall := stickers_subset_all List.mem_cons_self hp
    rw [standsAlone_text hn hout hpall, Place.node_retouch, carries_text]
    exact hs.images p hp

/-! ## Surveys -/

theorem judge_text (hn : page.Numbered) (hout : Outside rules page old) {b : Place}
    (hb : b ∈ (Place.top page).all) (hblock : isBlock rules.blockTags b.node = true) :
    judge rules.stickerClass (b.node.retouch (.text old new s))
        ((stickers rules.stickerClass b).map (Place.retouch (.text old new s))) =
      judge rules.stickerClass b.node (stickers rules.stickerClass b) := by
  have hbreaks : (stickers rules.stickerClass b).map
      (betweenBreaks ∘ Place.retouch (.text old new s)) =
        (stickers rules.stickerClass b).map betweenBreaks :=
    List.map_congr_left fun q hq => hout.betweenBreaks_text hn (stickers_subset_all hb hq)
      (blocksAround_ne_nil hn hb hblock (mem_stickers.mp hq).1)
  unfold judge
  rw [hout.onlyStickers_text hb hblock, List.map_map, List.map_map, hbreaks]
  rfl

/-- **Replacing a text outside every block changes nothing in what the page is judged to be.** -/
theorem survey_text (hn : page.Numbered) (hout : Outside rules page old) :
    survey rules (page.retouch (.text old new s)) = survey rules page := by
  have hids (p : Place) : ((stickers rules.stickerClass p).map
      (Place.retouch (.text old new s))).map (·.node.id) =
        (stickers rules.stickerClass p).map (·.node.id) := by
    rw [List.map_map]
    exact List.map_congr_left fun q hq => id_text_of_isFound (mem_stickers.mp hq).2
  unfold survey
  rw [blocks_text, List.map_map, standalone_text]
  congr 1
  · refine List.map_congr_left fun b hb => ?_
    obtain ⟨hball, hblock⟩ := mem_blocks.mp hb
    rw [Function.comp_apply, stickers_text, hids, Place.node_retouch,
      hout.judge_text hn hball hblock, id_text_of_isBlock hblock]
  · rw [List.map_map]
    exact List.map_congr_left fun q hq =>
      id_text_of_isFound (mem_stickers.mp (List.mem_filter.mp hq).1).2

end Outside

end StickerPages.Layout
