import StickerPages.Proofs.Settling

/-!
# What a sweep leaves alone

A sweep writes two classes and one style, and everything else on a page is to stay as it was. Which
elements it may write to depends on their heads only: blocks, by name, and stickers, by name and
class. `Spared` says of one element what must be the same before and after, and `Spares` says it of
a whole page.

Both are reflexive and transitive, and what decides about an element is itself spared; so it is
enough to look at one write at a time, wherever in a sweep it happens and whatever the verdict was.
For that reason nothing is asked of the block names: there may be none, and images may be blocks.
-/

namespace StickerPages.Layout

open Markup Style

/-! ## One element -/

/-- The element is a block. -/
def blockHead (rules : Rules) (h : Element) : Bool :=
  rules.blockTags.contains h.name

/-- The element is a sticker: an image with the sticker class among its classes. -/
def stickerHead (rules : Rules) (h : Element) : Bool :=
  h.name == "img" && h.classes.contains rules.stickerClass

/-- The class is one that a sweep may write on this element. -/
def owns (rules : Rules) (h : Element) (name : String) : Bool :=
  (blockHead rules h && name == rules.containerClass) ||
    (stickerHead rules h && name == rules.imageClass)

/-- The attribute is one that a sweep never writes. -/
def isForeign (name : String) : Bool :=
  name != "class" && name != "style"

/-- What a sweep that makes `e` of the element `h` leaves alone. -/
structure Spared (rules : Rules) (h e : Element) : Prop where
  name : e.name = h.name
  /-- All other attributes, in their order. -/
  attrs : e.attrs.filter (fun a => isForeign a.1) = h.attrs.filter fun a => isForeign a.1
  style : stickerHead rules h = false → e.attr? "style" = h.attr? "style"
  /-- All other classes, in their order and as often as they were there. -/
  classes : e.classes.filter (fun c => !owns rules h c) = h.classes.filter fun c => !owns rules h c
  /-- An element that is neither a block nor a sticker is the same altogether. -/
  whole : blockHead rules h = false → stickerHead rules h = false → e = h

/-- Rules whose markers do not make a sticker of an image or unmake one. -/
structure Rules.Apart (rules : Rules) : Prop where
  stickerWord : IsWord rules.stickerClass
  sticker_ne_container : rules.stickerClass ≠ rules.containerClass
  sticker_ne_image : rules.stickerClass ≠ rules.imageClass

section

variable {rules : Rules} {h e f : Element}

theorem owns_stickerClass (ha : rules.Apart) (h : Element) :
    owns rules h rules.stickerClass = false := by
  simp [owns, ha.sticker_ne_container, ha.sticker_ne_image]

theorem Findable.stickerHead (hw : IsWord rules.stickerClass)
    (hf : Findable rules.stickerClass h) : stickerHead rules h = true := by
  obtain ⟨hname, hmem⟩ := hf.mem_classes hw
  simp [Layout.stickerHead, hname, hmem]

namespace Spared

theorem refl (rules : Rules) (h : Element) : Spared rules h h :=
  ⟨rfl, rfl, fun _ => rfl, rfl, fun _ _ => rfl⟩

theorem blockHead_eq (hs : Spared rules h e) : blockHead rules e = blockHead rules h := by
  rw [blockHead, hs.name, blockHead]

/-- The sticker class is none of the classes that a sweep writes. -/
theorem stickerHead_eq (ha : rules.Apart) (hs : Spared rules h e) :
    stickerHead rules e = stickerHead rules h := by
  have hmem : rules.stickerClass ∈ e.classes ↔ rules.stickerClass ∈ h.classes := by
    have hkept (l : List String) :
        rules.stickerClass ∈ l.filter (fun c => !owns rules h c) ↔ rules.stickerClass ∈ l := by
      simp [owns_stickerClass ha]
    rw [← hkept e.classes, hs.classes, hkept]
  have hcontains : e.classes.contains rules.stickerClass =
      h.classes.contains rules.stickerClass := by
    rw [Bool.eq_iff_iff, List.contains_iff_mem, List.contains_iff_mem, hmem]
  rw [stickerHead, stickerHead, hs.name, hcontains]

theorem owns_eq (ha : rules.Apart) (hs : Spared rules h e) (name : String) :
    owns rules e name = owns rules h name := by
  rw [owns, hs.blockHead_eq, hs.stickerHead_eq ha, owns]

theorem trans (ha : rules.Apart) (hs : Spared rules h e) (ht : Spared rules e f) :
    Spared rules h f where
  name := ht.name.trans hs.name
  attrs := ht.attrs.trans hs.attrs
  style hno := (ht.style ((hs.stickerHead_eq ha).trans hno)).trans (hs.style hno)
  classes := by
    have hclasses := ht.classes
    simp only [hs.owns_eq ha] at hclasses
    exact hclasses.trans hs.classes
  whole hb hno := by
    rw [ht.whole (hs.blockHead_eq.trans hb) ((hs.stickerHead_eq ha).trans hno)]
    exact hs.whole hb hno

/-! ### The three writes -/

/-- A change of the class attribute alone that keeps the other classes. -/
theorem of_classes {name : String} (ho : owns rules h name = true) (hname : e.name = h.name)
    (hattrs : e.attrs.filter (fun a => isForeign a.1) = h.attrs.filter fun a => isForeign a.1)
    (hstyle : e.attr? "style" = h.attr? "style")
    (hclasses : e.classes.filter (· != name) = h.classes.filter (· != name)) :
    Spared rules h e where
  name := hname
  attrs := hattrs
  style _ := hstyle
  classes := by
    have hfine (l : List String) : l.filter (fun c => !owns rules h c) =
        (l.filter (· != name)).filter fun c => !owns rules h c := by
      rw [List.filter_filter]
      refine List.filter_congr fun c _ => ?_
      by_cases hc : c = name
      · simp [hc, ho]
      · simp [hc]
    rw [hfine, hclasses, ← hfine]
  whole hb hno := by
    rw [owns, hb, hno] at ho
    exact absurd ho (by simp)

theorem withClasses {name : String} (ho : owns rules h name = true) {ws : List String}
    (hws : ws.filter (· != name) = h.classes.filter (· != name)) :
    Spared rules h (h.withAttr "class" (.words ws)) := by
  refine of_classes ho rfl (Pairs.filter_put (p := isForeign) (by decide) ..)
    (Pairs.lookup_put_other _ _ (by decide)) ?_
  rw [classes_withAttr_words, hws]

theorem add {name : String} (ho : owns rules h name = true) :
    Spared rules h (Marker.add name h) := by
  unfold Marker.add
  split
  · exact refl rules h
  · exact withClasses ho (by simp)

theorem remove {name : String} (ho : owns rules h name = true) :
    Spared rules h (Marker.remove name h) := by
  unfold Marker.remove
  split
  · dsimp only
    split
    · rename_i hkept
      refine of_classes ho rfl (Pairs.filter_erase (p := isForeign) (by decide) _)
        (Pairs.lookup_erase_other (by decide) _) ?_
      rw [classes_withoutAttr, List.isEmpty_iff.mp hkept, List.filter_nil]
    · exact withClasses ho (by simp)
  · exact refl rules h

theorem styled (sizes : Sizes) (alone : Bool) (hsticker : stickerHead rules h = true) :
    Spared rules h (sizes.style alone h) where
  name := rfl
  attrs := Pairs.filter_put (p := isForeign) (by decide) ..
  style hno := by
    rw [hsticker] at hno
    cases hno
  classes := by rw [Sizes.style, classes_withAttr_other _ _ (by decide)]
  whole _ hno := by
    rw [hsticker] at hno
    cases hno

end Spared

end

/-! ## A page -/

/-- What a sweep that makes `swept` of the page leaves alone: the tree, and of every element what is
spared. -/
def Spares (rules : Rules) (page swept : Node) : Prop :=
  ∃ g : Nat → Element → Element, swept = page.retouch (.heads g) ∧
    ∀ i h cs, .element i h cs ∈ page.nodes → Spared rules h (g i h)

/-- All elements of this number have a head of this kind. -/
def Numbers (page : Node) (i : Nat) (kind : Element → Bool) : Prop :=
  ∀ h cs, .element i h cs ∈ page.nodes → kind h = true

section

variable {rules : Rules} {page p q : Node} {i : Nat}

namespace Spares

theorem refl (rules : Rules) (page : Node) : Spares rules page page :=
  ⟨fun _ h => h, (Node.retouch_nothing page).symm, fun _ h _ _ => Spared.refl rules h⟩

theorem trans (ha : rules.Apart) (hp : Spares rules page p) (hq : Spares rules p q) :
    Spares rules page q := by
  obtain ⟨g, rfl, hg⟩ := hp
  obtain ⟨f, rfl, hf⟩ := hq
  refine ⟨_, Node.retouch_heads_heads g f page, fun i h cs hm => ?_⟩
  have hm' := List.mem_map_of_mem (f := Node.retouch (.heads g)) hm
  rw [← Node.nodes_retouch, Node.retouch] at hm'
  exact (hg i h cs hm).trans ha (hf i _ _ hm')

/-- The page has no number twice if it had none before. -/
theorem numbered (hp : Spares rules page p) (hn : page.Numbered) : p.Numbered := by
  obtain ⟨g, rfl, -⟩ := hp
  exact hn.retouch_heads g

/-- **One write.** What kind of element has the number is known from the page before all writes. -/
theorem modify (ha : rules.Apart) {kind : Element → Bool} {f : Element → Element}
    (hkind : Numbers page i kind)
    (hkeeps : ∀ h e, Spared rules h e → kind h = true → kind e = true)
    (hf : ∀ e, kind e = true → Spared rules e (f e)) (hp : Spares rules page p) :
    Spares rules page (p.modify i f) := by
  obtain ⟨g, rfl, hg⟩ := hp
  refine ⟨fun j h => if j = i then f (g j h) else g j h, ?_, fun j h cs hm => ?_⟩
  · rw [Node.modify_eq_retouch, Node.retouch_heads_heads]
  · have hspared := hg j h cs hm
    dsimp only
    split
    · next hj =>
      exact hspared.trans ha (hf _ (hkeeps h _ hspared (hkind h cs (hj ▸ hm))))
    · exact hspared

theorem modify_block (ha : rules.Apart) (hi : Numbers page i (blockHead rules))
    {f : Element → Element} (hf : ∀ e, blockHead rules e = true → Spared rules e (f e))
    (hp : Spares rules page p) : Spares rules page (p.modify i f) :=
  modify ha hi (fun _ _ hs hb => hs.blockHead_eq.trans hb) hf hp

theorem modify_sticker (ha : rules.Apart) (hi : Numbers page i (stickerHead rules))
    {f : Element → Element} (hf : ∀ e, stickerHead rules e = true → Spared rules e (f e))
    (hp : Spares rules page p) : Spares rules page (p.modify i f) :=
  modify ha hi (fun _ _ hs hb => (hs.stickerHead_eq ha).trans hb) hf hp

/-- Several steps, each of which leaves alone what is spared. -/
theorem foldl {α : Type} {step : Node → α → Node} {l : List α}
    (hstep : ∀ a ∈ l, ∀ p, Spares rules page p → Spares rules page (step p a))
    (hp : Spares rules page p) : Spares rules page (l.foldl step p) :=
  List.foldlRecOn l step hp fun p hp a ha => hstep a ha p hp

end Spares

/-! ## One block -/

theorem owns_container {e : Element} (hb : blockHead rules e = true) :
    owns rules e rules.containerClass = true := by
  simp [owns, hb]

theorem owns_image {e : Element} (hs : stickerHead rules e = true) :
    owns rules e rules.imageClass = true := by
  simp [owns, hs]

section Block

variable {block : Nat} {images : List Nat} (ha : rules.Apart)
  (hblock : Numbers page block (blockHead rules))
  (himages : ∀ i ∈ images, Numbers page i (stickerHead rules))

include ha hblock himages

theorem spares_clear (hp : Spares rules page p) :
    Spares rules page (clear rules block images p) := by
  have hcleared := hp.modify_block ha hblock fun e hb => Spared.remove (owns_container hb)
  exact hcleared.foldl fun i hi p hp =>
    hp.modify_sticker ha (himages i hi) fun e hs => Spared.remove (owns_image hs)

/-- Whatever the verdict is. -/
theorem spares_mark (v : Verdict) (hp : Spares rules page p) :
    Spares rules page (mark rules block images v p) := by
  have hmarked : Spares rules page
      (if v.solo then p.modify block (Marker.add rules.containerClass) else p) := by
    split
    · exact hp.modify_block ha hblock fun e hb => Spared.add (owns_container hb)
    · exact hp
  refine hmarked.foldl fun i hi p hp => ?_
  obtain ⟨j, hj, rfl⟩ := List.mem_map.mp hi
  have hmem : j.1 ∈ images := (List.of_mem_zip (List.mem_filter.mp hj).1).1
  exact hp.modify_sticker ha (himages j.1 hmem) fun e hs => Spared.add (owns_image hs)

omit hblock in
theorem spares_restyle (sizes : Sizes) (verdicts : List Bool) (hp : Spares rules page p) :
    Spares rules page (restyle sizes (images.zip verdicts) p) :=
  hp.foldl fun j hj _ hp => hp.modify_sticker ha (himages j.1 (List.of_mem_zip hj).1)
    fun _ hs => Spared.styled sizes j.2 hs

end Block

/-- The block of a place is a block under its number, for no other element has that number. -/
theorem numbers_block {b : Place} (hn : page.Numbered) (hb : b ∈ (Place.top page).all)
    (hblock : isBlock rules.blockTags b.node = true) :
    Numbers page b.node.id (blockHead rules) := by
  intro h cs hm
  obtain ⟨q, hq, hqn⟩ := Place.exists_of_mem_nodes hm
  have hid : b.node.id = q.node.id := by rw [hqn]; rfl
  have hbq : b = q := Place.eq_of_id_eq (r := Place.top page) hn hb hq hid
  rw [hbq, hqn] at hblock
  exact hblock

theorem numbers_sticker {b : Place} (hw : IsWord rules.stickerClass) (hn : page.Numbered)
    (hb : b ∈ (Place.top page).all) {q : Place} (hq : q ∈ stickers rules.stickerClass b) :
    Numbers page q.node.id (stickerHead rules) :=
  fun _ _ hm => (findable_of_mem_stickers hn hb hq hm).stickerHead hw

/-- **Work on one block** leaves alone what is spared. -/
theorem spares_sweepBlock (sizes : Sizes) (ha : rules.Apart) (hn : page.Numbered) (block : Nat) :
    Spares rules page (sweepBlock rules sizes block page).1 := by
  unfold sweepBlock
  split
  · exact .refl rules page
  · next b hfind =>
    obtain ⟨hb, rfl⟩ := Place.mem_of_find? hfind
    split
    · next hisBlock =>
      have hblock := numbers_block hn hb hisBlock
      have himages : ∀ i ∈ (stickers rules.stickerClass b).map (·.node.id),
          Numbers page i (stickerHead rules) := by
        intro i hi
        obtain ⟨q, hq, rfl⟩ := List.mem_map.mp hi
        exact numbers_sticker ha.stickerWord hn hb hq
      dsimp only
      split
      · exact spares_clear ha hblock (fun i hi => absurd hi List.not_mem_nil) (.refl rules page)
      · have hcleared := spares_clear ha hblock himages (.refl rules page)
        have hmarked := spares_mark ha hblock himages
          (classify rules b.node.id ((stickers rules.stickerClass b).map (·.node.id))
            (clear rules b.node.id ((stickers rules.stickerClass b).map (·.node.id)) page)) hcleared
        exact spares_restyle ha himages sizes _ hmarked
    · exact .refl rules page

/-! ## The whole sweep -/

theorem sweepCounting_fst (rules : Rules) (sizes : Sizes) (s : Node × Stats) (block : Nat) :
    (sweepCounting rules sizes s block).1 = (sweepBlock rules sizes block s.1).1 := by
  unfold sweepCounting
  split <;> simp_all

/-- What work on a block keeps of a page, work on all blocks keeps. -/
theorem foldl_sweepCounting_keeps {sizes : Sizes} {P : Node → Prop}
    (hblock : ∀ block page, P page → P (sweepBlock rules sizes block page).1) (blocks : List Nat) :
    ∀ s : Node × Stats, P s.1 → P (blocks.foldl (sweepCounting rules sizes) s).1 := by
  induction blocks with
  | nil => exact fun _ hs => hs
  | cons b r ih =>
      intro s hs
      refine ih _ ?_
      rw [sweepCounting_fst]
      exact hblock b s.1 hs

theorem spares_sweepStandalone (sizes : Sizes) (ha : rules.Apart)
    (hi : Numbers page i (stickerHead rules)) (hp : Spares rules page p) :
    Spares rules page (sweepStandalone rules sizes p i) :=
  (hp.modify_sticker ha hi fun _ hs => Spared.remove (owns_image hs)).modify_sticker ha hi
    fun _ hs => Spared.styled sizes false hs

theorem spares_sweep (sizes : Sizes) (ha : rules.Apart) (hn : page.Numbered) :
    Spares rules page (sweep rules sizes page).1 := by
  unfold sweep
  dsimp only
  have hblocks := foldl_sweepCounting_keeps (P := Spares rules page)
    (fun b _ hs => hs.trans ha (spares_sweepBlock sizes ha (hs.numbered hn) b))
    ((blocks rules.blockTags (Place.top page)).map (·.node.id)) (page, {}) (.refl rules page)
  refine hblocks.trans ha (Spares.foldl (fun i hi p hp => ?_) (.refl rules _))
  obtain ⟨q, hq, rfl⟩ := List.mem_map.mp hi
  have hnumbers := numbers_sticker ha.stickerWord (hblocks.numbered hn) List.mem_cons_self
    (mem_standalone.mp hq).1
  exact spares_sweepStandalone sizes ha hnumbers hp

/-- **A sweep touches nothing but markers and the styles of stickers**, under any settings that give
rules and sizes. -/
theorem sweepUnder_spares {settings : Settings.Layout} (hd : Describes settings rules)
    (ha : rules.Apart) (hn : page.Numbered) :
    ∃ swept stats, sweepUnder settings page = .ok (swept, stats) ∧ Spares rules page swept := by
  obtain ⟨sizes, -, hsweep⟩ := hd.sweepUnder_eq page
  exact ⟨_, _, hsweep, spares_sweep sizes ha hn⟩

/-- Images are blocks here too, so that a sticker can have both markers. -/
theorem sweepUnder_spares_nestedPage :
    let settings : Settings.Layout := { blockTags := .list [.text "p", .text "img"] }
    let rules : Rules := { blockTags := ["p", "img"] }
    Describes settings rules ∧ rules.Apart ∧ nestedPage.Numbered ∧
      ∃ swept stats, sweepUnder settings nestedPage = .ok (swept, stats) ∧
        Spares rules nestedPage swept := by
  have hd : Describes { blockTags := .list [.text "p", .text "img"] }
      { blockTags := ["p", "img"] } := ⟨rfl, rfl, rfl, rfl, ⟨_, rfl⟩, ⟨_, rfl⟩⟩
  have ha : ({ blockTags := ["p", "img"] } : Rules).Apart :=
    ⟨isWord_of_any (by decide) (by decide), by decide, by decide⟩
  have hn : nestedPage.Numbered := by decide
  exact ⟨hd, ha, hn, sweepUnder_spares hd ha hn⟩

end

end StickerPages.Layout
