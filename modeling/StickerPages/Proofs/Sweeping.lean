import StickerPages.Proofs.Verdicts

/-!
# A sweep as one change

A sweep goes through the blocks and changes the page again and again: markers come off, verdicts are
made on what is left, markers go on, styles are written, and in nested blocks all of it happens to
one sticker several times. Here it becomes a single retouch of the page's heads.

**One block.** `touch` is a change of one block and of the stickers in it; three of them in a row
are what a sweep does there, and together they are `blockEdit` (`sweepBlock_eq`).

**All blocks.** `blockEdit` is gentle, so the verdicts of every later block are those of the page as
it was at the start, and the changes add up (`foldl_sweepCounting`).

**The whole sweep.** The stickers in no block are painted last, and every block has left them alone.
So a sweep comes to one change of each element, `sweepEdit` (`sweep_eq`), and what it finds on the
page it finds there afterwards too.
-/

namespace StickerPages.Layout

open Markup Style

/-! ## Changes one after the other -/

/-- Changing several elements, each once, is one retouch. -/
theorem foldl_modify {β : Type} (key : β → Nat) (f : β → Element → Element) (l : List β)
    (hn : (l.map key).Nodup) (page : Node) :
    l.foldl (fun p b => p.modify (key b) (f b)) page =
      page.retouch (.heads fun i h =>
        match l.find? fun b => key b == i with
        | some b => f b h
        | none => h) := by
  induction l generalizing page with
  | nil => exact (Node.retouch_nothing page).symm
  | cons b r ih =>
      rw [List.map_cons, List.nodup_cons] at hn
      rw [List.foldl_cons, ih hn.2, Node.modify_eq_retouch, Node.retouch_heads_heads]
      congr 2
      funext i h
      by_cases hb : key b = i
      · -- the first has this number, so no later one has it
        have hnone : r.find? (fun b => key b == i) = none := by
          rw [List.find?_eq_none]
          intro c hc
          have : key c ≠ i := fun he => hn.1 (hb ▸ he ▸ List.mem_map_of_mem hc)
          simpa using this
        simp [hb, hnone]
      · have hbi : (key b == i) = false := by simpa using hb
        simp [Ne.symm hb, hbi]

/-- Only the members of a list that do something count. -/
theorem foldl_filter_of_eq {α β : Type} (f : β → α → β) (c : α → Bool) (l : List α)
    (hl : ∀ a ∈ l, c a = false → ∀ b, f b a = b) (b : β) :
    l.foldl f b = (l.filter c).foldl f b := by
  induction l generalizing b with
  | nil => rfl
  | cons a r ih =>
      have ih' := ih fun x hx => hl x (List.mem_cons_of_mem _ hx)
      rw [List.foldl_cons, List.filter_cons]
      cases hc : c a with
      | false =>
          rw [hl a List.mem_cons_self hc, if_neg (by simp)]
          exact ih' b
      | true =>
          rw [if_pos rfl, List.foldl_cons]
          exact ih' _

/-! ## One block -/

/-- A sticker as a verdict leaves it: its marker written, its size put on. -/
def paint (rules : Rules) (sizes : Sizes) (alone : Bool) (h : Element) : Element :=
  sizes.style alone (Marker.put rules.imageClass alone h)

/-- A change of the block `b` and of the stickers in it. -/
def touch (rules : Rules) (b : Place) (onBlock : Element → Element)
    (onSticker : Place → Element → Element) (i : Nat) (h : Element) : Element :=
  if i = b.node.id then onBlock h
  else
    match (stickers rules.stickerClass b).find? fun q => q.node.id == i with
    | some q => onSticker q h
    | none => h

/-- What a sweep of the block `b` does to the element numbered `i`. -/
def blockEdit (rules : Rules) (sizes : Sizes) (b : Place) : Nat → Element → Element :=
  touch rules b (Marker.put rules.containerClass (isSolo rules b))
    fun q => paint rules sizes (aloneIn rules b.node q)

/-- The verdict about a block and the stickers found in it. -/
def verdictOf (rules : Rules) (b : Place) : Verdict :=
  ⟨onlyStickers rules.stickerClass b.node,
    (stickers rules.stickerClass b).map (aloneIn rules b.node)⟩

theorem judge_eq (rules : Rules) (b : Node) (ps : List Place) :
    judge rules.stickerClass b ps =
      ⟨onlyStickers rules.stickerClass b, ps.map (aloneIn rules b)⟩ := by
  have he (x : Bool) (hx : onlyStickers rules.stickerClass b = x) :
      aloneIn rules b = fun p => x || betweenBreaks p := by
    funext p
    rw [aloneIn, hx]
  unfold judge
  split
  · rename_i hs
    rw [hs, he true hs]
    simp
  · rename_i hs
    rw [Bool.not_eq_true] at hs
    rw [hs, he false hs]
    simp

/-! ## Changes that a search does not notice -/

/-- A change of one element that keeps its name and its being a sticker. -/
structure Mild (rules : Rules) (f : Element → Element) : Prop where
  name : ∀ h, (f h).name = h.name
  sticker : ∀ h,
    (f h).classes.contains rules.stickerClass = h.classes.contains rules.stickerClass
  found : ∀ h, Findable rules.stickerClass h → Findable rules.stickerClass (f h)

namespace Mild

variable {rules : Rules}

theorem put (hs : rules.Distinct) {name : String} (hne : rules.stickerClass ≠ name)
    (called : Bool) : Mild rules (Marker.put name called) where
  name h := Marker.name_put name called h
  sticker h := Marker.contains_put_other called h hne
  found _ hf := hf.put hs.stickerWord hne called

theorem paint (hs : rules.Distinct) (sizes : Sizes) (alone : Bool) :
    Mild rules (paint rules sizes alone) where
  name h := Marker.name_put _ alone h
  sticker h := by
    rw [Layout.paint, Sizes.style, classes_withAttr_other _ _ (by decide)]
    exact Marker.contains_put_other alone h hs.sticker_ne_image
  found _ hf :=
    (findable_style_iff ..).mpr (hf.put hs.stickerWord hs.sticker_ne_image alone)

end Mild

section Block

variable {rules : Rules} {sizes : Sizes} {page : Node} {b : Place}

theorem mem_blocks {p : Place} :
    b ∈ blocks rules.blockTags p ↔ b ∈ p.all ∧ isBlock rules.blockTags b.node = true :=
  List.mem_filter

theorem mem_stickers {p q : Place} :
    q ∈ stickers rules.stickerClass p ↔
      q ∈ p.inside ∧ isFound rules.stickerClass q.node = true :=
  List.mem_filter

theorem stickers_subset_all (hb : b ∈ (Place.top page).all) :
    stickers rules.stickerClass b ⊆ (Place.top page).all := by
  intro q hq
  exact (Place.all_sublist hb).subset (List.mem_cons_of_mem _ (mem_stickers.mp hq).1)

theorem stickers_ids_nodup (hn : page.Numbered) (hb : b ∈ (Place.top page).all) :
    ((stickers rules.stickerClass b).map (·.node.id)).Nodup := by
  have hall := Place.numbered_of_mem (r := Place.top page) hn hb
  rw [Node.Numbered, ← Place.all_ids] at hall
  exact List.Sublist.nodup (List.Sublist.map _ (List.Sublist.cons _ List.filter_sublist)) hall

/-- A block is not one of the stickers in it. -/
theorem find?_stickers_self (rules : Rules) (hn : page.Numbered) (hb : b ∈ (Place.top page).all) :
    (stickers rules.stickerClass b).find? (fun q => q.node.id == b.node.id) = none := by
  have hbn : b.node.Numbered := Place.numbered_of_mem (r := Place.top page) hn hb
  exact Place.find?_of_not_mem (r := Place.top page) hn (stickers_subset_all hb) hb
    fun hm => Place.not_mem_inside hbn (mem_stickers.mp hm).1

/-- An element with the number of a sticker is that sticker. -/
theorem findable_of_mem_stickers (hn : page.Numbered) (hb : b ∈ (Place.top page).all) {q : Place}
    (hq : q ∈ stickers rules.stickerClass b) {h : Element} {cs : List Node}
    (hm : .element q.node.id h cs ∈ page.nodes) : Findable rules.stickerClass h := by
  obtain ⟨p, hp, hpn⟩ := Place.exists_of_mem_nodes hm
  have hid : q.node.id = p.node.id := by rw [hpn]; rfl
  have hqp : q = p :=
    Place.eq_of_id_eq (r := Place.top page) hn (stickers_subset_all hb hq) hp hid
  have hfound := (mem_stickers.mp hq).2
  rw [hqp, hpn] at hfound
  exact hfound

/-- **A change of a block and of the stickers in it is gentle.** -/
theorem gentle_touch (hs : rules.Distinct) (hn : page.Numbered)
    (hb : b ∈ blocks rules.blockTags (Place.top page)) {f : Element → Element}
    {g : Place → Element → Element} (hf : Mild rules f) (hg : ∀ q, Mild rules (g q)) :
    Gentle rules page (touch rules b f g) where
  name i h := by
    unfold touch
    split
    · exact hf.name h
    · split
      · exact (hg _).name h
      · rfl
  sticker i h := by
    unfold touch
    split
    · exact hf.sticker h
    · split
      · exact (hg _).sticker h
      · rfl
  found i h cs hm := by
    obtain ⟨hball, hblock⟩ := mem_blocks.mp hb
    unfold touch
    split
    · -- the block itself: it is no image, whatever its classes
      rename_i hi
      obtain ⟨p, hp, hpn⟩ := Place.exists_of_mem_nodes hm
      have hid : p.node.id = i := by rw [hpn]; rfl
      have hpb : p = b := Place.eq_of_id_eq (r := Place.top page) hn hp hball (hid.trans hi)
      rw [← hpb, hpn] at hblock
      have hname : h.name ≠ "img" := fun he =>
        hs.img_not_block (he ▸ List.contains_iff_mem.mp hblock)
      have himg {e : Element} (he : Findable rules.stickerClass e) : e.name = "img" :=
        (he.mem_classes hs.stickerWord).1
      exact ⟨fun he => absurd ((hf.name h).symm.trans (himg he)) hname,
        fun he => absurd (himg he) hname⟩
    · split
      · -- a sticker in it: it has been found already
        rename_i q hq
        obtain rfl : q.node.id = i := by simpa using List.find?_some hq
        have hfound := findable_of_mem_stickers hn hball (List.mem_of_find?_eq_some hq) hm
        exact ⟨fun _ => hfound, fun _ => (hg q).found h hfound⟩
      · rfl

theorem gentle_blockEdit (sizes : Sizes) (hs : rules.Distinct) (hn : page.Numbered)
    (hb : b ∈ blocks rules.blockTags (Place.top page)) :
    Gentle rules page (blockEdit rules sizes b) :=
  gentle_touch hs hn hb (Mild.put hs hs.sticker_ne_container _) fun _ => Mild.paint hs sizes _

/-! ## The three changes that a sweep makes of one block -/

theorem touch_touch (b : Place) (f f' : Element → Element) (g g' : Place → Element → Element)
    (page : Node) :
    (page.retouch (.heads (touch rules b f g))).retouch (.heads (touch rules b f' g')) =
      page.retouch (.heads (touch rules b (fun h => f' (f h)) fun q h => g' q (g q h))) := by
  rw [Node.retouch_heads_heads]
  congr 2
  funext i h
  unfold touch
  split
  · rfl
  · split <;> rfl

theorem modify_eq_touch (rules : Rules) (b : Place) (f : Element → Element) (page : Node) :
    page.modify b.node.id f = page.retouch (.heads (touch rules b f fun _ h => h)) := by
  rw [Node.modify_eq_retouch]
  congr 2
  funext i h
  unfold touch
  split
  · rfl
  · split <;> rfl

theorem foldl_stickers_eq_touch {p : Node} (hn : p.Numbered) (hb : b ∈ (Place.top p).all)
    (g : Place → Element → Element) (page : Node) :
    (stickers rules.stickerClass b).foldl (fun n q => n.modify q.node.id (g q)) page =
      page.retouch (.heads (touch rules b (fun h => h) g)) := by
  rw [foldl_modify (fun q : Place => q.node.id) g _ (stickers_ids_nodup hn hb)]
  congr 2
  funext i h
  unfold touch
  by_cases hi : i = b.node.id
  · rw [if_pos hi, hi, find?_stickers_self rules hn hb]
  · rw [if_neg hi]
    cases (stickers rules.stickerClass b).find? fun q => q.node.id == i <;> rfl

theorem clear_eq (rules : Rules) (hn : page.Numbered) (hb : b ∈ (Place.top page).all) :
    clear rules b.node.id ((stickers rules.stickerClass b).map (·.node.id)) page =
      page.retouch (.heads (touch rules b (Marker.put rules.containerClass false)
        fun _ => Marker.put rules.imageClass false)) := by
  rw [clear, modifyEach, List.foldl_map, modify_eq_touch rules,
    foldl_stickers_eq_touch hn hb (fun _ => Marker.remove rules.imageClass), touch_touch]
  rfl

theorem mark_eq (hn : page.Numbered) (hb : b ∈ (Place.top page).all) (p : Node) :
    mark rules b.node.id ((stickers rules.stickerClass b).map (·.node.id))
        (verdictOf rules b) p =
      p.retouch (.heads (touch rules b
        (if onlyStickers rules.stickerClass b.node then Marker.add rules.containerClass
          else fun h => h)
        fun q => if aloneIn rules b.node q then Marker.add rules.imageClass else fun h => h)) := by
  have hsame (i : Nat) (n : Node) : n.modify i (fun h => h) = n := by
    rw [Node.modify_eq_retouch]
    simpa using Node.retouch_nothing n
  have hif (q : Place) (n : Node) :
      (if aloneIn rules b.node q then n.modify q.node.id (Marker.add rules.imageClass) else n) =
        n.modify q.node.id
          (if aloneIn rules b.node q then Marker.add rules.imageClass else fun h => h) := by
    split
    · rfl
    · exact (hsame _ n).symm
  have hblock :
      (if (verdictOf rules b).solo then p.modify b.node.id (Marker.add rules.containerClass)
        else p) =
      p.retouch (.heads (touch rules b
        (if onlyStickers rules.stickerClass b.node then Marker.add rules.containerClass
          else fun h => h) fun _ h => h)) := by
    rw [← modify_eq_touch]
    unfold verdictOf
    split
    · rfl
    · exact (hsame _ p).symm
  have hpairs :
      ((((stickers rules.stickerClass b).map (·.node.id)).zip (verdictOf rules b).images).filter
        (·.2)).map (·.1) =
      ((stickers rules.stickerClass b).filter (aloneIn rules b.node)).map (·.node.id) := by
    rw [verdictOf, List.zip_map', List.filter_map, List.map_map]
    rfl
  rw [mark, hblock, hpairs, modifyEach, List.foldl_map, List.foldl_filter]
  simp only [hif]
  rw [foldl_stickers_eq_touch hn hb (fun q =>
    if aloneIn rules b.node q then Marker.add rules.imageClass else fun h => h), touch_touch]

theorem restyle_eq (hn : page.Numbered) (hb : b ∈ (Place.top page).all) (p : Node) :
    restyle sizes
        (((stickers rules.stickerClass b).map (·.node.id)).zip (verdictOf rules b).images) p =
      p.retouch (.heads (touch rules b (fun h => h)
        fun q => sizes.style (aloneIn rules b.node q))) := by
  rw [restyle, verdictOf, List.zip_map', List.foldl_map]
  exact foldl_stickers_eq_touch hn hb (fun q => sizes.style (aloneIn rules b.node q)) p

/-- The verdict made in the middle of the work is that of the page before it. -/
theorem classify_retouch (hn : page.Numbered) (hb : b ∈ (Place.top page).all)
    {g : Nat → Element → Element} (hg : Gentle rules page g) :
    classify rules b.node.id ((stickers rules.stickerClass b).map (·.node.id))
        (page.retouch (.heads g)) = verdictOf rules b := by
  have hfind : (Place.top (page.retouch (.heads g))).find? b.node.id =
      some (b.retouch (.heads g)) := by
    rw [← Place.top_retouch, Place.find?_retouch_heads,
      Place.find?_eq_some (r := Place.top page) hn hb]
    rfl
  have hbn : b.node.Numbered := Place.numbered_of_mem (r := Place.top page) hn hb
  have himages :
      ((stickers rules.stickerClass b).map (·.node.id)).filterMap (b.retouch (.heads g)).find? =
        (stickers rules.stickerClass b).map (Place.retouch (.heads g)) := by
    rw [List.filterMap_map, ← List.filterMap_eq_map]
    refine List.filterMap_congr fun q hq => ?_
    have hqb : q ∈ b.all := List.mem_cons_of_mem _ (mem_stickers.mp hq).1
    rw [Function.comp_apply, Place.find?_retouch_heads, Place.find?_eq_some hbn hqb]
    rfl
  unfold classify
  rw [hfind]
  dsimp only
  rw [himages, judge_eq, Place.node_retouch, hg.onlyStickers_retouch, List.map_map, verdictOf]
  congr 1
  exact List.map_congr_left fun q _ => hg.aloneIn_retouch b.node q

/-- **The sweep of one block is one change of the page.** -/
theorem sweepBlock_eq (sizes : Sizes) (hs : rules.Distinct) (hn : page.Numbered)
    (hb : b ∈ blocks rules.blockTags (Place.top page)) :
    sweepBlock rules sizes b.node.id page =
      (page.retouch (.heads (blockEdit rules sizes b)),
        if (stickers rules.stickerClass b).isEmpty then none else some (verdictOf rules b)) := by
  obtain ⟨hball, hblock⟩ := mem_blocks.mp hb
  have hgentle := gentle_touch hs hn hb (Mild.put hs hs.sticker_ne_container false)
    fun _ : Place => Mild.put hs hs.sticker_ne_image false
  unfold sweepBlock
  rw [Place.find?_eq_some (r := Place.top page) hn hball]
  dsimp only
  rw [if_pos hblock, List.isEmpty_map]
  cases hempty : (stickers rules.stickerClass b).isEmpty with
  | true =>
      -- without stickers the block loses its marker, and there is nothing else to do
      have hnil := List.isEmpty_iff.mp hempty
      have hclear := clear_eq rules hn hball
      rw [hnil, List.map_nil] at hclear
      rw [if_pos rfl, if_pos rfl, hclear]
      congr 3
      funext i h
      simp [blockEdit, touch, isSolo, hnil]
  | false =>
      have hsolo : isSolo rules b = onlyStickers rules.stickerClass b.node := by
        simp [isSolo, hempty]
      rw [if_neg Bool.false_ne_true, if_neg Bool.false_ne_true, reclassify]
      dsimp only
      rw [clear_eq rules hn hball, classify_retouch hn hball hgentle, mark_eq hn hball,
        restyle_eq hn hball, touch_touch, touch_touch, blockEdit, hsolo]
      congr 4
      · funext h
        unfold Marker.put
        cases onlyStickers rules.stickerClass b.node <;> rfl
      · funext q h
        unfold paint Marker.put
        cases aloneIn rules b.node q <;> rfl

/-! ## All blocks -/

/-- What the blocks of a list, one after the other, do to the element numbered `i`. -/
def blockEdits (rules : Rules) (sizes : Sizes) (bs : List Place) (i : Nat) (h : Element) :
    Element :=
  bs.foldl (fun h b => blockEdit rules sizes b i h) h

/-- The counts with one more block looked at; a block without stickers is not counted. -/
def countBlock (rules : Rules) (s : Stats) (b : Place) : Stats :=
  if (stickers rules.stickerClass b).isEmpty then s else s.count (verdictOf rules b)

theorem blockEdit_retouch (hb : b ∈ (Place.top page).all) {g : Nat → Element → Element}
    (hg : Gentle rules page g) :
    blockEdit rules sizes (b.retouch (.heads g)) = blockEdit rules sizes b := by
  funext i h
  unfold blockEdit touch
  rw [hg.isSolo_retouch hb, hg.stickers_retouch hb, List.find?_map, Place.node_retouch,
    Node.id_retouch_heads]
  have hid : (fun q : Place => q.node.id == i) ∘ Place.retouch (.heads g) =
      fun q => q.node.id == i := funext fun q => by simp
  rw [hid]
  split
  · rfl
  · cases (stickers rules.stickerClass b).find? fun q => q.node.id == i with
    | none => rfl
    | some q => simp [hg.aloneIn_retouch]

theorem countBlock_retouch (hb : b ∈ (Place.top page).all) {g : Nat → Element → Element}
    (hg : Gentle rules page g) (s : Stats) :
    countBlock rules s (b.retouch (.heads g)) = countBlock rules s b := by
  have halone : aloneIn rules (b.node.retouch (.heads g)) ∘ Place.retouch (.heads g) =
      aloneIn rules b.node := funext fun q => hg.aloneIn_retouch b.node q
  unfold countBlock verdictOf
  rw [hg.stickers_retouch hb, List.isEmpty_map, Place.node_retouch, hg.onlyStickers_retouch,
    List.map_map, halone]

theorem sweepCounting_eq (sizes : Sizes) (hs : rules.Distinct) (hn : page.Numbered)
    (hb : b ∈ blocks rules.blockTags (Place.top page)) {g : Nat → Element → Element}
    (hg : Gentle rules page g) (s : Stats) :
    sweepCounting rules sizes (page.retouch (.heads g), s) b.node.id =
        (page.retouch (.heads fun i h => blockEdit rules sizes b i (g i h)), countBlock rules s b) ∧
      Gentle rules page fun i h => blockEdit rules sizes b i (g i h) := by
  have hball := (mem_blocks.mp hb).1
  have hb' : b.retouch (.heads g) ∈
      blocks rules.blockTags (Place.top (page.retouch (.heads g))) := by
    rw [hg.blocks_retouch]
    exact List.mem_map_of_mem hb
  have hn' := hn.retouch_heads g
  have hsweep := sweepBlock_eq sizes hs hn' hb'
  have hgentle := gentle_blockEdit sizes hs hn' hb'
  rw [blockEdit_retouch hball hg] at hgentle
  rw [blockEdit_retouch hball hg, Node.retouch_heads_heads, Place.node_retouch,
    Node.id_retouch_heads] at hsweep
  refine ⟨?_, hg.comp hgentle⟩
  rw [← countBlock_retouch hball hg, sweepCounting, hsweep, countBlock]
  cases (stickers rules.stickerClass (b.retouch (.heads g))).isEmpty <;> rfl

/-- **The sweeps of several blocks add up to one gentle change.** -/
theorem foldl_sweepCounting (sizes : Sizes) (hs : rules.Distinct) (hn : page.Numbered)
    (bs : List Place) (hbs : bs ⊆ blocks rules.blockTags (Place.top page)) :
    ∀ {g : Nat → Element → Element} (_ : Gentle rules page g) (s : Stats),
      (bs.map (·.node.id)).foldl (sweepCounting rules sizes) (page.retouch (.heads g), s) =
          (page.retouch (.heads fun i h => blockEdits rules sizes bs i (g i h)),
            bs.foldl (countBlock rules) s) ∧
        Gentle rules page fun i h => blockEdits rules sizes bs i (g i h) := by
  induction bs with
  | nil => exact fun hg s => ⟨rfl, hg⟩
  | cons b r ih =>
      intro g hg s
      obtain ⟨hb, hr⟩ := List.cons_subset.mp hbs
      obtain ⟨hstep, hgentle⟩ := sweepCounting_eq sizes hs hn hb hg s
      rw [List.map_cons, List.foldl_cons, hstep]
      exact ih hr hgentle _

/-! ## The stickers in no block, and the whole sweep -/

/-- What a sweep does to the element numbered `i`. -/
def sweepEdit (rules : Rules) (sizes : Sizes) (page : Node) (i : Nat) (h : Element) : Element :=
  let done := blockEdits rules sizes (blocks rules.blockTags (Place.top page)) i h
  match (standalone rules.stickerClass rules.blockTags (Place.top page)).find?
      fun q => q.node.id == i with
  | some _ => paint rules sizes false done
  | none => done

/-- What a sweep counts. -/
def sweepStats (rules : Rules) (page : Node) : Stats :=
  { (blocks rules.blockTags (Place.top page)).foldl (countBlock rules) {} with
    standalone := (standalone rules.stickerClass rules.blockTags (Place.top page)).length }

theorem enclosing?_retouch {g : Nat → Element → Element} (hg : Gentle rules page g) (p : Place) :
    enclosing? rules.blockTags (p.retouch (.heads g)) = enclosing? rules.blockTags p := by
  unfold enclosing?
  rw [retouch_innermost (isBlock_retouch hg.name _), Option.map_map]
  congr 1
  exact funext fun a => Node.id_retouch_heads g a.node

theorem standalone_retouch {g : Nat → Element → Element} (hg : Gentle rules page g) :
    standalone rules.stickerClass rules.blockTags (Place.top (page.retouch (.heads g))) =
      (standalone rules.stickerClass rules.blockTags (Place.top page)).map
        (Place.retouch (.heads g)) := by
  unfold standalone
  rw [← Place.top_retouch, hg.stickers_retouch List.mem_cons_self, List.filter_map]
  congr 1
  refine List.filter_congr fun q _ => ?_
  rw [Function.comp_apply, enclosing?_retouch hg]

theorem mem_standalone {p q : Place} :
    q ∈ standalone rules.stickerClass rules.blockTags p ↔
      q ∈ stickers rules.stickerClass p ∧ (enclosing? rules.blockTags q).isNone = true :=
  List.mem_filter

theorem standalone_ids_nodup (hn : page.Numbered) :
    ((standalone rules.stickerClass rules.blockTags (Place.top page)).map (·.node.id)).Nodup :=
  (List.Sublist.map _ List.filter_sublist).nodup (stickers_ids_nodup hn List.mem_cons_self)

theorem sweepStandalone_eq (i : Nat) (p : Node) :
    sweepStandalone rules sizes p i = p.modify i (paint rules sizes false) := by
  rw [sweepStandalone, Node.modify_eq_retouch, Node.modify_eq_retouch, Node.modify_eq_retouch,
    Node.retouch_heads_heads]
  congr 2
  funext j h
  split <;> rfl

/-- The last painting goes over stickers only, so with it the change stays gentle. -/
theorem gentle_sweepEdit (sizes : Sizes) (hs : rules.Distinct) (hn : page.Numbered)
    (hblocks : Gentle rules page
      (blockEdits rules sizes (blocks rules.blockTags (Place.top page)))) :
    Gentle rules page (sweepEdit rules sizes page) := by
  have hpaint := Mild.paint hs sizes false
  refine ⟨fun i h => ?_, fun i h => ?_, fun i h cs hm => ?_⟩
  · unfold sweepEdit
    dsimp only
    split
    · exact (hpaint.name _).trans (hblocks.name i h)
    · exact hblocks.name i h
  · unfold sweepEdit
    dsimp only
    split
    · exact (hpaint.sticker _).trans (hblocks.sticker i h)
    · exact hblocks.sticker i h
  · have hfound := hblocks.found i h cs hm
    unfold sweepEdit
    dsimp only
    split
    · rename_i q hq
      obtain rfl : q.node.id = i := by simpa using List.find?_some hq
      have hqs := (mem_standalone.mp (List.mem_of_find?_eq_some hq)).1
      have hf := findable_of_mem_stickers hn List.mem_cons_self hqs hm
      exact ⟨fun _ => hf, fun _ => hpaint.found _ (hfound.mpr hf)⟩
    · exact hfound

/-- **A sweep is one gentle change of the page.** -/
theorem sweep_retouch (sizes : Sizes) (hs : rules.Distinct) (hn : page.Numbered) :
    sweep rules sizes page =
        (page.retouch (.heads (sweepEdit rules sizes page)), sweepStats rules page) ∧
      Gentle rules page (sweepEdit rules sizes page) := by
  have hnothing : Gentle rules page fun _ h => h :=
    ⟨fun _ _ => rfl, fun _ _ => rfl, fun _ _ _ _ => Iff.rfl⟩
  obtain ⟨hblocks, hgentle⟩ := foldl_sweepCounting sizes hs hn
    (blocks rules.blockTags (Place.top page)) (List.Subset.refl _) hnothing {}
  rw [Node.retouch_nothing] at hblocks
  have hids : (fun q : Place => q.node.id) ∘ Place.retouch (.heads fun i h =>
      blockEdits rules sizes (blocks rules.blockTags (Place.top page)) i h) =
      fun q => q.node.id := funext fun q => by simp
  refine ⟨?_, gentle_sweepEdit sizes hs hn hgentle⟩
  unfold sweep
  dsimp only
  rw [hblocks]
  dsimp only
  rw [standalone_retouch hgentle, List.map_map, hids, List.length_map, List.foldl_map]
  simp only [sweepStandalone_eq]
  rw [foldl_modify (fun q : Place => q.node.id) (fun _ => paint rules sizes false) _
    (standalone_ids_nodup hn), Node.retouch_heads_heads]
  congr 3
  funext i h
  unfold sweepEdit
  dsimp only
  cases (standalone rules.stickerClass rules.blockTags (Place.top page)).find?
    fun q => q.node.id == i <;> rfl

theorem sweep_eq (sizes : Sizes) (hs : rules.Sound) (hn : page.Numbered) :
    sweep rules sizes page =
        (page.retouch (.heads (sweepEdit rules sizes page)), sweepStats rules page) ∧
      Gentle rules page (sweepEdit rules sizes page) :=
  sweep_retouch sizes hs hn

end Block

end StickerPages.Layout
