import Mathlib.Algebra.Ring.Nat
import StickerPages.Proofs.Settling

/-!
# What the counts of a sweep count

A sweep counts as it goes: a block is counted when it is judged, and with it every sticker in it. So
the blocks are counted once each, and the counts of blocks describe the page. A sticker is counted
by every block around it. Where blocks lie in blocks, the counts of stickers are counts of visits:
`sum_stickers` exchanges the two ways of counting them, block by block and sticker by sticker, and
`sweepUnder_tallied` says what each of the five counts comes to.

They are counts of stickers exactly if no sticker lies in two blocks (`stickers_counted_iff`). For
the stickers that stand alone there is a second reason to part: each visit is counted by its own
verdict, and only the innermost block's verdict is left on the page.
-/

namespace StickerPages.Layout

open Markup Style

variable {rules : Rules} {page : Node}

/-! ## Counting block by block -/

theorem foldl_countBlock (bs : List Place) (s : Stats) :
    bs.foldl (countBlock rules) s =
      { s with
        blocks := s.blocks + bs.countP fun b => !(stickers rules.stickerClass b).isEmpty
        soloBlocks := s.soloBlocks + bs.countP (isSolo rules)
        images := s.images + (bs.map fun b => (stickers rules.stickerClass b).length).sum
        soloImages := s.soloImages +
          (bs.map fun b =>
            (stickers rules.stickerClass b).countP (aloneIn rules b.node)).sum } := by
  induction bs generalizing s with
  | nil => rfl
  | cons b r ih =>
      rw [List.foldl_cons, ih, countBlock]
      -- a block without stickers is passed over, and adds nothing to the sums either
      cases hempty : (stickers rules.stickerClass b).isEmpty with
      | true =>
          have hnil := List.isEmpty_iff.mp hempty
          simp [hnil, isSolo]
      | false =>
          have hsolo : (verdictOf rules b).solo = isSolo rules b := by
            rw [isSolo, hempty, Bool.not_false, Bool.true_and, verdictOf]
          have hlength : (verdictOf rules b).images.length =
              (stickers rules.stickerClass b).length := List.length_map ..
          have hcount : (verdictOf rules b).images.count true =
              (stickers rules.stickerClass b).countP (aloneIn rules b.node) := by
            rw [verdictOf, List.count, List.countP_map]
            exact List.countP_congr fun q _ => by simp
          rw [if_neg Bool.false_ne_true]
          simp only [Stats.count, hsolo, hlength, hcount, hempty, List.countP_cons, List.map_cons,
            List.sum_cons, Bool.not_false, if_true]
          congr 1 <;> omega

/-! ## Counting sticker by sticker -/

/-- Pairs may be counted by their first or by their second half. -/
theorem sum_countP_comm {α β : Type} (r : α → β → Bool) (as : List α) (bs : List β) :
    (as.map fun a => bs.countP (r a)).sum = (bs.map fun b => as.countP fun a => r a b).sum := by
  induction as with
  | nil => simp
  | cons a as ih =>
      have hsplit (bs : List β) : (bs.map fun b => (a :: as).countP fun a => r a b).sum =
          bs.countP (r a) + (bs.map fun b => as.countP fun a => r a b).sum := by
        induction bs with
        | nil => rfl
        | cons b bs ihb =>
            rw [List.map_cons, List.sum_cons, ihb, List.map_cons, List.sum_cons, List.countP_cons,
              List.countP_cons]
            omega
      rw [List.map_cons, List.sum_cons, ih, hsplit]

/-- The stickers in a block are the stickers of the page that it holds. -/
theorem stickers_perm (hs : rules.Distinct) (hn : page.Numbered) {b : Place}
    (hb : b ∈ blocks rules.blockTags (Place.top page)) :
    (stickers rules.stickerClass b).Perm
      ((stickers rules.stickerClass (Place.top page)).filter
        fun p => Place.holding p.node.id b) := by
  obtain ⟨hball, hblock⟩ := mem_blocks.mp hb
  -- on both sides no sticker occurs twice, so it is enough that they have the same ones
  have hnodup {p : Place} (hp : p ∈ (Place.top page).all) :
      (stickers rules.stickerClass p).Nodup :=
    (stickers_ids_nodup hn hp).of_map
  rw [List.perm_ext_iff_of_nodup (hnodup hball) ((hnodup List.mem_cons_self).filter _)]
  intro p
  rw [List.mem_filter, mem_stickers, mem_stickers]
  constructor
  · rintro ⟨hin, hfound⟩
    exact ⟨⟨Place.inside_subset hball hin, hfound⟩,
      Place.holding_of_mem_all (List.mem_cons_of_mem _ hin)⟩
  · rintro ⟨⟨hin, hfound⟩, hhold⟩
    refine ⟨?_, hfound⟩
    obtain ⟨q, hq, hid⟩ := Place.exists_mem_all_of_holding hhold
    obtain rfl : q = p := Place.eq_of_id_eq (r := Place.top page) hn
      ((Place.all_sublist hball).subset hq) (List.mem_cons_of_mem _ hin) hid
    -- the block holds itself too, but no sticker is a block
    rcases List.mem_cons.mp hq with rfl | hq
    · rw [not_isBlock_of_isFound hs hfound] at hblock
      cases hblock
    · exact hq

/-- The blocks that hold a sticker are the blocks around it. -/
theorem nodes_holding (hs : rules.Distinct) (hn : page.Numbered) {p : Place}
    (hp : p ∈ stickers rules.stickerClass (Place.top page)) :
    ((blocks rules.blockTags (Place.top page)).filter (Place.holding p.node.id)).map (·.node) =
      (blocksAround rules p).reverse := by
  have hpall := stickers_subset_all List.mem_cons_self hp
  have hnot : [p].filter (fun q => isBlock rules.blockTags q.node) = [] := by
    simp [not_isBlock_of_isFound hs (mem_stickers.mp hp).2]
  have hcomm : (blocks rules.blockTags (Place.top page)).filter (Place.holding p.node.id) =
      ((Place.top page).all.filter (Place.holding p.node.id)).filter
        fun q => isBlock rules.blockTags q.node := by
    rw [blocks, List.filter_filter, List.filter_filter]
    exact List.filter_congr fun q _ => Bool.and_comm ..
  rw [hcomm, Place.filter_holding hn hpall, List.filter_append, hnot, List.append_nil,
    List.filter_reverse, List.map_reverse, blocksAround, ← outer_nodes, List.filter_map]
  rfl

/-- **What is counted block by block may be counted sticker by sticker.** -/
theorem sum_stickers (hs : rules.Distinct) (hn : page.Numbered) (ask : Node → Place → Bool) :
    ((blocks rules.blockTags (Place.top page)).map fun b =>
        (stickers rules.stickerClass b).countP (ask b.node)).sum =
      ((stickers rules.stickerClass (Place.top page)).map fun p =>
        (blocksAround rules p).countP fun b => ask b p).sum := by
  calc ((blocks rules.blockTags (Place.top page)).map fun b =>
        (stickers rules.stickerClass b).countP (ask b.node)).sum
      = ((blocks rules.blockTags (Place.top page)).map fun b =>
          (stickers rules.stickerClass (Place.top page)).countP fun p =>
            Place.holding p.node.id b && ask b.node p).sum := by
        congr 1
        refine List.map_congr_left fun b hb => ?_
        rw [(stickers_perm hs hn hb).countP_eq, List.countP_filter]
        exact List.countP_congr fun p _ => by rw [Bool.and_comm]
    _ = ((stickers rules.stickerClass (Place.top page)).map fun p =>
          (blocks rules.blockTags (Place.top page)).countP fun b =>
            Place.holding p.node.id b && ask b.node p).sum := sum_countP_comm ..
    _ = ((stickers rules.stickerClass (Place.top page)).map fun p =>
          (blocksAround rules p).countP fun b => ask b p).sum := by
        congr 1
        refine List.map_congr_left fun p hp => ?_
        rw [← (List.reverse_perm (blocksAround rules p)).countP_eq, ← nodes_holding hs hn hp,
          List.countP_map, List.countP_filter]
        exact List.countP_congr fun b _ => by rw [Bool.and_comm]; rfl

/-! ## No sticker in two blocks -/

/-- No sticker lies in two blocks. -/
def InOneBlock (rules : Rules) (page : Node) : Prop :=
  ∀ p ∈ stickers rules.stickerClass (Place.top page), (blocksAround rules p).length ≤ 1

instance (rules : Rules) (page : Node) : Decidable (InOneBlock rules page) :=
  inferInstanceAs (Decidable (∀ p ∈ stickers rules.stickerClass (Place.top page),
    (blocksAround rules p).length ≤ 1))

/-- Counting every sticker once for each block around it, and once more if there is none. -/
theorem stickers_counted_iff (ps : List Place) :
    (ps.map fun p => (blocksAround rules p).length).sum +
        (ps.countP fun p => (blocksAround rules p).isEmpty) = ps.length ↔
      ∀ p ∈ ps, (blocksAround rules p).length ≤ 1 := by
  have hle (ps : List Place) : ps.length ≤ (ps.map fun p => (blocksAround rules p).length).sum +
      ps.countP fun p => (blocksAround rules p).isEmpty := by
    induction ps with
    | nil => rfl
    | cons p r ih =>
        rw [List.map_cons, List.sum_cons, List.countP_cons, List.length_cons]
        cases blocksAround rules p with
        | nil => simp; omega
        | cons b bs => simp; omega
  induction ps with
  | nil => simp
  | cons p r ih =>
      have hr := hle r
      rw [List.forall_mem_cons, List.map_cons, List.sum_cons, List.countP_cons, List.length_cons]
      refine Iff.trans ?_ (and_congr_right' ih)
      cases blocksAround rules p with
      | nil =>
          simp only [List.length_nil, List.isEmpty_nil, if_true]
          omega
      | cons b bs =>
          simp only [List.length_cons, List.isEmpty_cons, Bool.false_eq_true, if_false]
          omega

theorem sum_indicator {α : Type} (ask : α → Bool) (as : List α) :
    (as.map fun a => if ask a = true then 1 else 0).sum = as.countP ask := by
  induction as with
  | nil => rfl
  | cons a as ih => rw [List.map_cons, List.sum_cons, ih, List.countP_cons, Nat.add_comm]

theorem countP_aloneIn {p : Place} (h : (blocksAround rules p).length ≤ 1) :
    (blocksAround rules p).countP (fun b => aloneIn rules b p) =
      if standsAlone rules p = true then 1 else 0 := by
  rw [standsAlone_eq]
  match hb : blocksAround rules p, h with
  | [], _ => rfl
  | [b], _ => rw [List.countP_cons, List.countP_nil, Nat.zero_add]; rfl

/-! ## The counts of a sweep -/

/-- What the five counts come to. -/
structure Tallied (rules : Rules) (page swept : Node) (stats : Stats) : Prop where
  /-- The blocks with a sticker in them. -/
  blocks : stats.blocks = (blocks rules.blockTags (Place.top page)).countP
    fun b => !(stickers rules.stickerClass b).isEmpty
  /-- The blocks that carry their marker afterwards. -/
  soloBlocks : stats.soloBlocks = (Layout.blocks rules.blockTags (Place.top swept)).countP
    fun b => carries rules.containerClass b.node
  /-- Every sticker once for each block around it. -/
  images : stats.images = ((stickers rules.stickerClass (Place.top page)).map
    fun p => (blocksAround rules p).length).sum
  /-- Every sticker once for each block around it that has it stand alone. -/
  soloImages : stats.soloImages = ((stickers rules.stickerClass (Place.top page)).map
    fun p => (blocksAround rules p).countP fun b => aloneIn rules b p).sum
  /-- The stickers in no block. -/
  standalone : stats.standalone = (stickers rules.stickerClass (Place.top page)).countP
    fun p => (blocksAround rules p).isEmpty

/-- The counts, made before anything is changed. -/
theorem sweepStats_eq (rules : Rules) (page : Node) :
    sweepStats rules page =
      ⟨(blocks rules.blockTags (Place.top page)).countP
          fun b => !(stickers rules.stickerClass b).isEmpty,
        (blocks rules.blockTags (Place.top page)).countP (isSolo rules),
        ((blocks rules.blockTags (Place.top page)).map fun b =>
          (stickers rules.stickerClass b).length).sum,
        ((blocks rules.blockTags (Place.top page)).map fun b =>
          (stickers rules.stickerClass b).countP (aloneIn rules b.node)).sum,
        (standalone rules.stickerClass rules.blockTags (Place.top page)).length⟩ := by
  rw [sweepStats, foldl_countBlock]
  simp only [Nat.zero_add]

/-- The stickers that carry their marker afterwards stand alone, and no other does. -/
theorem countP_carries_image (sizes : Sizes) (hs : rules.Distinct) (hn : page.Numbered) :
    ((stickers rules.stickerClass (Place.top (sweep rules sizes page).1)).countP
        fun p => carries rules.imageClass p.node) =
      (stickers rules.stickerClass (Place.top page)).countP (standsAlone rules) := by
  obtain ⟨heq, hg⟩ := sweep_retouch sizes hs hn
  have hsettled := (sweep_swept sizes hs hn).settled
  rw [List.countP_congr fun p hp => Bool.eq_iff_iff.mp (hsettled.images p hp), heq]
  dsimp only
  rw [← Place.top_retouch, hg.stickers_retouch List.mem_cons_self, List.countP_map]
  exact List.countP_congr fun p _ => by rw [Function.comp_apply, hg.standsAlone_retouch]

/-- The blocks that carry their marker afterwards are solo, and no other is. -/
theorem countP_carries_container (sizes : Sizes) (hs : rules.Distinct) (hn : page.Numbered) :
    ((blocks rules.blockTags (Place.top (sweep rules sizes page).1)).countP
        fun b => carries rules.containerClass b.node) =
      (blocks rules.blockTags (Place.top page)).countP (isSolo rules) := by
  obtain ⟨heq, hg⟩ := sweep_retouch sizes hs hn
  have hsettled := (sweep_swept sizes hs hn).settled
  rw [List.countP_congr fun b hb => Bool.eq_iff_iff.mp (hsettled.blocks b hb), heq]
  dsimp only
  rw [hg.blocks_retouch, List.countP_map]
  refine List.countP_congr fun b hb => ?_
  rw [Function.comp_apply, hg.isSolo_retouch (mem_blocks.mp hb).1]

theorem sweep_tallied (sizes : Sizes) (hs : rules.Distinct) (hn : page.Numbered) :
    Tallied rules page (sweep rules sizes page).1 (sweep rules sizes page).2 := by
  have hstats : (sweep rules sizes page).2 = sweepStats rules page := by
    rw [(sweep_retouch sizes hs hn).1]
  rw [hstats, sweepStats_eq]
  refine ⟨rfl, (countP_carries_container sizes hs hn).symm, ?_, sum_stickers hs hn (aloneIn rules),
    ?_⟩
  · have h := sum_stickers hs hn fun _ _ => true
    simpa using h
  · rw [standalone, ← List.countP_eq_length_filter]
    refine List.countP_congr fun p _ => ?_
    rw [enclosing?_isNone_iff, List.isEmpty_iff]

/-- **What a sweep counts.** The counts of blocks describe the page. Stickers are counted once for
each block around them, so the counts of stickers describe it if no sticker lies in two blocks, and
the total only then. -/
theorem sweepUnder_tallied {settings : Settings.Layout} (hd : Describes settings rules)
    (hs : rules.Distinct) (hn : page.Numbered) :
    ∃ swept stats, sweepUnder settings page = .ok (swept, stats) ∧ Tallied rules page swept stats ∧
      (stats.images + stats.standalone = (stickers rules.stickerClass (Place.top page)).length ↔
        InOneBlock rules page) ∧
      (InOneBlock rules page → stats.soloImages =
        (stickers rules.stickerClass (Place.top swept)).countP
          fun p => carries rules.imageClass p.node) := by
  obtain ⟨sizes, -, hsweep⟩ := hd.sweepUnder_eq page
  have htallied := sweep_tallied sizes hs hn
  refine ⟨(sweep rules sizes page).1, (sweep rules sizes page).2, hsweep, htallied, ?_,
    fun hone => ?_⟩
  · rw [htallied.images, htallied.standalone]
    exact stickers_counted_iff _
  · rw [htallied.soloImages, countP_carries_image sizes hs hn,
      List.map_congr_left fun p hp => countP_aloneIn (hone p hp), sum_indicator]

theorem sweepUnder_tallied_nestedPage :
    Describes {} {} ∧ ({} : Rules).Distinct ∧ nestedPage.Numbered ∧ ¬ InOneBlock {} nestedPage ∧
      ∃ swept stats, sweepUnder {} nestedPage = .ok (swept, stats) ∧
        Tallied {} nestedPage swept stats ∧
        stats.images + stats.standalone ≠
          (stickers ({} : Rules).stickerClass (Place.top nestedPage)).length := by
  have hn : nestedPage.Numbered := by decide
  have htwo : ¬ InOneBlock {} nestedPage := by decide
  obtain ⟨swept, stats, hsweep, htallied, hiff, -⟩ :=
    sweepUnder_tallied describes_default Rules.sound_default.distinct hn
  exact ⟨describes_default, Rules.sound_default.distinct, hn, htwo, swept, stats, hsweep, htallied,
    fun h => htwo (hiff.mp h)⟩

/-- A sticker between line breaks, in a block inside a block. -/
def boxedBreaks : Node :=
  .element 0 ⟨rootName, []⟩ [.element 1 ⟨"p", []⟩ [.element 2 ⟨"p", []⟩
    [.leaf 3 .plain "x", .element 4 ⟨"br", []⟩ [],
     .element 5 ⟨"img", [("class", .words ["sticker-emoji"])]⟩ [],
     .element 6 ⟨"br", []⟩ [], .leaf 7 .plain "y"]]]

/-- **One sticker is counted as two**, and as two that stand alone. -/
theorem sweepUnder_countsTwice :
    ∃ swept stats, sweepUnder {} boxedBreaks = .ok (swept, stats) ∧
      stats.images + stats.standalone = 2 ∧
      (stickers ({} : Rules).stickerClass (Place.top boxedBreaks)).length = 1 ∧
      stats.soloImages = 2 ∧
      ((stickers ({} : Rules).stickerClass (Place.top swept)).countP
        fun p => carries ({} : Rules).imageClass p.node) = 1 := by
  have hn : boxedBreaks.Numbered := by decide
  have hs := Rules.sound_default.distinct
  have hcounts : (sweepStats {} boxedBreaks).images + (sweepStats {} boxedBreaks).standalone = 2 ∧
      (sweepStats {} boxedBreaks).soloImages = 2 := by decide
  have hone : (stickers ({} : Rules).stickerClass (Place.top boxedBreaks)).length = 1 := by decide
  have halone : (stickers ({} : Rules).stickerClass (Place.top boxedBreaks)).countP
      (standsAlone {}) = 1 := by decide
  obtain ⟨sizes, -, hsweep⟩ := describes_default.sweepUnder_eq boxedBreaks
  have hstats : (sweep {} sizes boxedBreaks).2 = sweepStats {} boxedBreaks := by
    rw [(sweep_retouch sizes hs hn).1]
  have hmarked := countP_carries_image sizes hs hn
  rw [← hstats] at hcounts
  rw [halone] at hmarked
  generalize sweep {} sizes boxedBreaks = outcome at hsweep hcounts hmarked
  exact ⟨outcome.1, outcome.2, hsweep, hcounts.1, hone, hcounts.2, hmarked⟩

end StickerPages.Layout
