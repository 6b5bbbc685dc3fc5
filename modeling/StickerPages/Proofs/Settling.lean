import StickerPages.Layout.Wish
import StickerPages.Proofs.Restyling
import StickerPages.Proofs.Sweeping

/-!
# After a sweep the page is settled

`Proofs/Sweeping.lean` turns a sweep into one change of heads. Here that change is read off at each
place of the page. A block has its marker written once. A sticker is painted by every block around
it, and of these paintings the last is the innermost block's, because document order comes by the
outer blocks first; a sticker in no block is painted as one inside text. Whatever the earlier
paintings and the markers of former sweeps were, the last one decides: `sweep_swept`.

The style that a painting leaves is a serialised declaration map with the six forced entries of its
verdict in it (`Styled`).
-/

namespace StickerPages.Layout

open Markup Style

variable {rules : Rules} {sizes : Sizes} {page : Node} {p : Place}

/-! ## The blocks around a place -/

/-- The blocks around a place, innermost first. -/
def blocksAround (rules : Rules) (p : Place) : List Node :=
  (p.above.map (·.node)).filter (isBlock rules.blockTags)

theorem outer_nodes (p : Place) : p.outer.map (·.node) = p.above.map (·.node) := by
  have h (ls : List Markup.Level) : (Markup.Level.places ls).map (·.node) = ls.map (·.node) := by
    induction ls with
    | nil => rfl
    | cons l r ih => rw [Markup.Level.places, List.map_cons, List.map_cons, ih]
  exact h p.above

theorem head?_blocksAround (rules : Rules) (p : Place) :
    (blocksAround rules p).head? =
      (p.above.find? fun a => isBlock rules.blockTags a.node).map (·.node) := by
  rw [blocksAround, List.head?_filter, List.find?_map]
  rfl

theorem standsAlone_eq (p : Place) :
    standsAlone rules p =
      match (blocksAround rules p).head? with
      | some b => aloneIn rules b p
      | none => false := by
  rw [head?_blocksAround, standsAlone]
  cases p.above.find? fun a => isBlock rules.blockTags a.node <;> rfl

theorem enclosing?_isNone_iff (p : Place) :
    (enclosing? rules.blockTags p).isNone = true ↔ blocksAround rules p = [] := by
  have h := head?_blocksAround rules p
  rw [← List.head?_eq_none_iff, h, enclosing?]
  cases p.above.find? fun a => isBlock rules.blockTags a.node <;> simp

/-! ## What happens at one place -/

/-- Blocks that do not hold an element do nothing to it, and those that do come in the order of
their nesting. -/
theorem blockEdits_eq (hn : page.Numbered) (hp : p ∈ (Place.top page).all) (h : Element) :
    blockEdits rules sizes (blocks rules.blockTags (Place.top page)) p.node.id h =
      ((p.outer.reverse ++ [p]).filter fun q => isBlock rules.blockTags q.node).foldl
        (fun h b => blockEdit rules sizes b p.node.id h) h := by
  have hidle : ∀ b ∈ blocks rules.blockTags (Place.top page),
      Place.holding p.node.id b = false → ∀ h, blockEdit rules sizes b p.node.id h = h := by
    intro b _ hhold h
    have hself : p.node.id ≠ b.node.id := by
      intro he
      rw [he, Place.holding_self] at hhold
      exact Bool.noConfusion hhold
    have hnone : (stickers rules.stickerClass b).find? (fun q => q.node.id == p.node.id) =
        none := by
      rw [List.find?_eq_none]
      intro q hq hid
      have := Place.holding_of_mem_all (List.mem_cons_of_mem _ (mem_stickers.mp hq).1 : q ∈ b.all)
      rw [show q.node.id = p.node.id by simpa using hid, hhold] at this
      exact Bool.noConfusion this
    simp [blockEdit, touch, hself, hnone]
  rw [blockEdits, foldl_filter_of_eq _ (Place.holding p.node.id) _ hidle, blocks,
    List.filter_filter, ← Place.filter_holding hn hp, List.filter_filter]
  congr 1
  refine List.filter_congr fun q _ => ?_
  rw [Bool.and_comm]

theorem not_isBlock_of_isFound (hs : rules.Distinct) {n : Node}
    (hf : isFound rules.stickerClass n = true) : isBlock rules.blockTags n = false := by
  cases n with
  | leaf i k s => rfl
  | element i h cs =>
      have hname := (Findable.mem_classes hs.stickerWord hf).1
      rw [isBlock, hname]
      simpa using hs.img_not_block

/-- A block around a sticker paints it by the block's own verdict. -/
theorem blockEdit_sticker {b : Place} (hn : page.Numbered) (hb : b ∈ (Place.top page).all)
    (hp : p ∈ stickers rules.stickerClass b) (h : Element) :
    blockEdit rules sizes b p.node.id h = paint rules sizes (aloneIn rules b.node p) h := by
  have hfind := Place.find?_of_mem (r := Place.top page) hn (stickers_subset_all hb) hp
  have hself : p.node.id ≠ b.node.id := by
    intro he
    have hnone := find?_stickers_self rules hn hb
    rw [← he, hfind] at hnone
    cases hnone
  rw [blockEdit, touch, if_neg hself, hfind]

/-- Painted by the blocks around it, the innermost last. -/
def painted (rules : Rules) (sizes : Sizes) (p : Place) (h : Element) : Element :=
  match blocksAround rules p with
  | [] => paint rules sizes false h
  | bs => bs.foldr (fun b h => paint rules sizes (aloneIn rules b p) h) h

/-- **What a sweep does to a sticker.** -/
theorem sweepEdit_sticker (hs : rules.Distinct) (hn : page.Numbered)
    (hp : p ∈ stickers rules.stickerClass (Place.top page)) (h : Element) :
    sweepEdit rules sizes page p.node.id h = painted rules sizes p h := by
  have hpall := stickers_subset_all List.mem_cons_self hp
  have hfound := (mem_stickers.mp hp).2
  have hblocks : blockEdits rules sizes (blocks rules.blockTags (Place.top page)) p.node.id h =
      (blocksAround rules p).foldr (fun b h => paint rules sizes (aloneIn rules b p) h) h := by
    have hnot : [p].filter (fun q => isBlock rules.blockTags q.node) = [] := by
      simp [not_isBlock_of_isFound hs hfound]
    rw [blockEdits_eq hn hpall, List.filter_append, hnot, List.append_nil, List.filter_reverse,
      List.foldl_reverse, blocksAround, ← outer_nodes, List.filter_map, List.foldr_map]
    refine List.foldr_ext _ _ _ fun b hb h => ?_
    obtain ⟨hball, hin⟩ := Place.mem_of_mem_outer hn hpall (List.mem_filter.mp hb).1
    exact blockEdit_sticker hn hball (mem_stickers.mpr ⟨hin, hfound⟩) h
  unfold sweepEdit painted
  dsimp only
  rw [hblocks]
  have hsub : standalone rules.stickerClass rules.blockTags (Place.top page) ⊆
      (Place.top page).all :=
    fun q hq => stickers_subset_all List.mem_cons_self (mem_standalone.mp hq).1
  have halone : p ∈ standalone rules.stickerClass rules.blockTags (Place.top page) ↔
      blocksAround rules p = [] := by
    rw [mem_standalone, enclosing?_isNone_iff]
    exact ⟨fun h => h.2, fun h => ⟨hp, h⟩⟩
  cases hbs : blocksAround rules p with
  | nil => rw [Place.find?_of_mem (r := Place.top page) hn hsub (halone.mpr hbs)]; rfl
  | cons b r =>
      have hnot := fun hm => List.cons_ne_nil b r (hbs.symm.trans (halone.mp hm))
      rw [Place.find?_of_not_mem (r := Place.top page) hn hsub hpall hnot]

/-- The last painting is by the verdict that the page calls for. -/
theorem painted_eq (sizes : Sizes) (p : Place) (h : Element) :
    ∃ h', painted rules sizes p h = paint rules sizes (standsAlone rules p) h' := by
  rw [standsAlone_eq]
  unfold painted
  cases blocksAround rules p with
  | nil => exact ⟨h, rfl⟩
  | cons b r => exact ⟨_, rfl⟩

/-- **What a sweep does to a block.** -/
theorem sweepEdit_block (hs : rules.Distinct) (hn : page.Numbered)
    (hp : p ∈ blocks rules.blockTags (Place.top page)) (h : Element) :
    sweepEdit rules sizes page p.node.id h =
      Marker.put rules.containerClass (isSolo rules p) h := by
  obtain ⟨hpall, hblock⟩ := mem_blocks.mp hp
  have hnotSticker {b : Place} (hb : b ∈ (Place.top page).all) :
      (stickers rules.stickerClass b).find? (fun q => q.node.id == p.node.id) = none := by
    refine Place.find?_of_not_mem (r := Place.top page) hn (stickers_subset_all hb) hpall ?_
    intro hq
    rw [not_isBlock_of_isFound hs (mem_stickers.mp hq).2] at hblock
    exact Bool.noConfusion hblock
  have houter : ∀ b ∈ p.outer.reverse.filter (fun q => isBlock rules.blockTags q.node),
      false = false → ∀ h, blockEdit rules sizes b p.node.id h = h := by
    intro b hb _ h
    have hba := List.mem_reverse.mp (List.mem_filter.mp hb).1
    obtain ⟨hball, hin⟩ := Place.mem_of_mem_outer hn hpall hba
    have hself : p.node.id ≠ b.node.id := by
      intro he
      have := Place.eq_of_id_eq (r := Place.top page) hn hpall hball he
      rw [← this] at hba
      exact Nat.lt_irrefl _ (Place.above_length_of_mem_places hba)
    simp [blockEdit, touch, hself, hnotSticker hball]
  have hnone : (standalone rules.stickerClass rules.blockTags (Place.top page)).find?
      (fun q => q.node.id == p.node.id) = none := by
    rw [List.find?_eq_none]
    intro q hq
    exact List.find?_eq_none.mp (hnotSticker List.mem_cons_self) q (mem_standalone.mp hq).1
  unfold sweepEdit
  dsimp only
  rw [hnone, blockEdits_eq hn hpall, List.filter_append,
    List.filter_cons_of_pos (by simpa using hblock), List.filter_nil, List.foldl_append,
    foldl_filter_of_eq _ (fun _ => false) _ houter]
  simp [blockEdit, touch]

/-! ## Markers and styles in the end -/

/-- The style is a serialised map of declarations that holds the six forced ones of the verdict. -/
def Styled (sizes : Sizes) (alone : Bool) (h : Element) : Prop :=
  ∃ ds : Declarations, (ds.map (·.1)).Nodup ∧ h.attr? "style" = some (.text (serialize ds)) ∧
    ∀ d ∈ sizes.forced alone, ds.lookup d.1 = some d.2

theorem styled_paint (alone : Bool) (h : Element) :
    Styled sizes alone (paint rules sizes alone h) := by
  refine ⟨_, Pairs.nodup_keys_putAll _ (nodup_keys_parse _), Pairs.lookup_put_self ..,
    fun d hd => ?_⟩
  refine Pairs.lookup_putAll_of_mem _ ?_ hd _
  cases alone <;> simp [Sizes.forced]

theorem carries_paint (alone : Bool) (h : Element) :
    (paint rules sizes alone h).classes.contains rules.imageClass = alone := by
  rw [paint, Sizes.style, classes_withAttr_other _ _ (by decide)]
  exact Marker.contains_put_self ..

/-- The head of an element of a retouched page. -/
theorem head?_retouch {g : Nat → Element → Element} {n : Node} {h : Element}
    (hh : n.head? = some h) : (n.retouch (.heads g)).head? = some (g n.id h) := by
  cases n with
  | leaf i k s => cases hh
  | element i h' cs =>
      cases hh
      rfl

theorem exists_head_of_isFound {n : Node} (hf : isFound rules.stickerClass n = true) :
    ∃ h, n.head? = some h := by
  cases n with
  | leaf i k s => cases hf
  | element i h cs => exact ⟨h, rfl⟩

theorem exists_head_of_isBlock {tags : List String} {n : Node} (hb : isBlock tags n = true) :
    ∃ h, n.head? = some h := by
  cases n with
  | leaf i k s => cases hb
  | element i h cs => exact ⟨h, rfl⟩

/-- What is to be said of a page that comes from another by a sweep. -/
structure Swept (rules : Rules) (sizes : Sizes) (page swept : Node) : Prop where
  /-- The tree stands as it stood: only heads were changed, and no name. -/
  tree : ∃ g : Nat → Element → Element,
    (∀ i h, (g i h).name = h.name) ∧ swept = page.retouch (.heads g)
  settled : Settled rules swept
  styled : ∀ p ∈ stickers rules.stickerClass (Place.top swept),
    ∃ h, p.node.head? = some h ∧ Styled sizes (standsAlone rules p) h

/-- **After a sweep the page is settled**, and every sticker has the style of its verdict. -/
theorem sweep_swept (sizes : Sizes) (hs : rules.Distinct) (hn : page.Numbered) :
    Swept rules sizes page (sweep rules sizes page).1 := by
  obtain ⟨heq, hg⟩ := sweep_retouch sizes hs hn
  have hsticker {p : Place} (hp : p ∈ stickers rules.stickerClass (Place.top page)) :
      ∃ h', (p.node.retouch (.heads (sweepEdit rules sizes page))).head? =
        some (paint rules sizes (standsAlone rules p) h') := by
    obtain ⟨h, hh⟩ := exists_head_of_isFound (mem_stickers.mp hp).2
    obtain ⟨h', hpaint⟩ := painted_eq sizes p h
    exact ⟨h', by rw [head?_retouch hh, sweepEdit_sticker hs hn hp, hpaint]⟩
  rw [heq]
  refine ⟨⟨_, hg.name, rfl⟩, ⟨?_, ?_⟩, ?_⟩
  · intro b' hb'
    rw [hg.blocks_retouch] at hb'
    obtain ⟨b, hb, rfl⟩ := List.mem_map.mp hb'
    obtain ⟨hball, hblock⟩ := mem_blocks.mp hb
    obtain ⟨h, hh⟩ := exists_head_of_isBlock hblock
    rw [hg.isSolo_retouch hball, carries, Place.node_retouch, head?_retouch hh,
      sweepEdit_block hs hn hb]
    exact Marker.contains_put_self ..
  · intro p' hp'
    rw [← Place.top_retouch, hg.stickers_retouch List.mem_cons_self] at hp'
    obtain ⟨p, hp, rfl⟩ := List.mem_map.mp hp'
    obtain ⟨h', hh'⟩ := hsticker hp
    rw [hg.standsAlone_retouch, carries, Place.node_retouch, hh']
    exact carries_paint ..
  · intro p' hp'
    rw [← Place.top_retouch, hg.stickers_retouch List.mem_cons_self] at hp'
    obtain ⟨p, hp, rfl⟩ := List.mem_map.mp hp'
    obtain ⟨h', hh'⟩ := hsticker hp
    rw [hg.standsAlone_retouch]
    exact ⟨_, hh', styled_paint _ h'⟩

/-! ## Under settings -/

/-- The settings give these rules, and what they say of sizes is text. -/
structure Describes (settings : Settings.Layout) (rules : Rules) : Prop where
  stickerClass : settings.stickerClass = .text rules.stickerClass
  containerClass : settings.containerClass = .text rules.containerClass
  imageClass : settings.imageClass = .text rules.imageClass
  blockTags : names? settings.blockTags = some rules.blockTags
  soloMaxSize : ∃ s, settings.soloMaxSize = .text s
  inlineMaxSize : ∃ s, settings.inlineMaxSize = .text s

theorem Describes.rulesFor_eq {settings : Settings.Layout} (hd : Describes settings rules) :
    rulesFor settings = .ok rules := by
  rw [rulesFor, hd.blockTags, hd.stickerClass, hd.containerClass, hd.imageClass]
  rfl

theorem Describes.sizesFor_eq {settings : Settings.Layout} (hd : Describes settings rules)
    (page : Node) : ∃ sizes, sizesFor settings page = .ok sizes := by
  obtain ⟨s, hs⟩ := hd.soloMaxSize
  obtain ⟨t, ht⟩ := hd.inlineMaxSize
  rw [sizesFor, hs, ht]
  exact ⟨_, rfl⟩

theorem Describes.sweepUnder_eq {settings : Settings.Layout} (hd : Describes settings rules)
    (page : Node) : ∃ sizes, sizesFor settings page = .ok sizes ∧
      sweepUnder settings page = .ok (sweep rules sizes page) := by
  obtain ⟨sizes, hsizes⟩ := hd.sizesFor_eq page
  refine ⟨sizes, hsizes, ?_⟩
  rw [sweepUnder, hsizes, hd.rulesFor_eq]
  rfl

/-- **Sweeping under settings succeeds and settles the page.** The page is numbered if it was read
(`page_numbered`), and every change of it keeps it so. -/
theorem sweepUnder_settles {settings : Settings.Layout} (hd : Describes settings rules)
    (hs : rules.Sound) (hn : page.Numbered) :
    ∃ sizes swept stats, sizesFor settings page = .ok sizes ∧
      sweepUnder settings page = .ok (swept, stats) ∧ Swept rules sizes page swept := by
  obtain ⟨sizes, hsizes, hsweep⟩ := hd.sweepUnder_eq page
  exact ⟨sizes, _, _, hsizes, hsweep, sweep_swept sizes hs hn⟩

theorem Rules.sound_default : ({} : Rules).Sound where
  stickerWord := isWord_of_any (by decide) (by decide)
  containerWord := isWord_of_any (by decide) (by decide)
  imageWord := isWord_of_any (by decide) (by decide)
  sticker_ne_container := by decide
  sticker_ne_image := by decide
  container_ne_image := by decide
  someTags := by decide
  img_not_block := by decide

theorem describes_default : Describes {} {} :=
  ⟨rfl, rfl, rfl, rfl, ⟨_, rfl⟩, ⟨_, rfl⟩⟩

/-- A page with a block inside a block, an old marker on a sticker that is not alone, and a sticker
between line breaks. -/
def nestedPage : Node :=
  let sticker (i : Nat) (classes : List String) : Node :=
    .element i ⟨"img",
      [("class", .words ("sticker-emoji" :: classes)), ("style", .text "WIDTH: 9px")]⟩ []
  .element 0 ⟨rootName, []⟩
    [.element 1 ⟨"p", [("class", .words ["sticker-solo-container"])]⟩
      [.leaf 2 .plain "so", sticker 3 ["sticker-solo-image"], .element 4 ⟨"br", []⟩ [],
       sticker 5 [], .leaf 6 .plain " ", .element 7 ⟨"br", []⟩ [],
       .element 8 ⟨"p", []⟩ [sticker 9 [], .leaf 10 .comment "only this"]],
     sticker 11 ["sticker-solo-image"]]

theorem sweepUnder_settles_nestedPage :
    Describes {} {} ∧ ({} : Rules).Sound ∧ nestedPage.Numbered ∧
      ∃ sizes swept stats, sizesFor {} nestedPage = .ok sizes ∧
        sweepUnder {} nestedPage = .ok (swept, stats) ∧ Swept {} sizes nestedPage swept := by
  have hn : nestedPage.Numbered := by decide
  exact ⟨describes_default, Rules.sound_default, hn,
    sweepUnder_settles describes_default Rules.sound_default hn⟩

end StickerPages.Layout
