import StickerPages.Proofs.Settling

/-!
# Sweeping a settled page changes no marker

A settled page is one that a sweep has nothing to say about: every marker that the sweep would write
is there already, and it writes no marker where none belongs. So a page is settled exactly until a
verdict changes, and `markers` of the page before and after a further sweep are the same, node by
node (`markers_sweep`). Styles may still change: the sizes of a page can change without any verdict
changing.
-/

namespace StickerPages.Layout

open Markup Style

variable {rules : Rules} {page : Node}

/-- Both markers of every node of a page. -/
def markers (rules : Rules) (page : Node) : List (Nat × Bool × Bool) :=
  page.nodes.map fun n =>
    (n.id, carries rules.containerClass n, carries rules.imageClass n)

/-- What is true of a head and stays true when a block's marker or a sticker is written, is true
after a sweep. Only blocks have a block's marker written, and only stickers are painted. -/
theorem sweepEdit_keeps {P : Element → Prop} {sizes : Sizes} {i : Nat}
    (block : ∀ b ∈ blocks rules.blockTags (Place.top page), b.node.id = i →
      ∀ called h, P h → P (Marker.put rules.containerClass called h))
    (sticker : ∀ q ∈ stickers rules.stickerClass (Place.top page), q.node.id = i →
      ∀ alone h, P h → P (paint rules sizes alone h)) {h : Element} (hP : P h) :
    P (sweepEdit rules sizes page i h) := by
  have hedits (bs : List Place) (hbs : bs ⊆ blocks rules.blockTags (Place.top page)) :
      ∀ h, P h → P (blockEdits rules sizes bs i h) := by
    induction bs with
    | nil => exact fun h hP => hP
    | cons b r ih =>
        intro h hP
        obtain ⟨hb, hr⟩ := List.cons_subset.mp hbs
        refine ih hr _ ?_
        show P (blockEdit rules sizes b i h)
        unfold blockEdit touch
        split
        · exact block b hb (Eq.symm ‹_›) _ h hP
        · split
          next q hq =>
            obtain ⟨hin, hfound⟩ := mem_stickers.mp (List.mem_of_find?_eq_some hq)
            have hid : q.node.id = i := by simpa using List.find?_some hq
            have htop := Place.inside_subset (mem_blocks.mp hb).1 hin
            exact sticker q (mem_stickers.mpr ⟨htop, hfound⟩) hid _ h hP
          next => exact hP
  have hdone := hedits _ (List.Subset.refl _) h hP
  unfold sweepEdit
  dsimp only
  split
  next q hq =>
    have hid : q.node.id = i := by simpa using List.find?_some hq
    exact sticker q (mem_standalone.mp (List.mem_of_find?_eq_some hq)).1 hid _ _ hdone
  next => exact hdone

section

variable {p : Place} (sizes : Sizes) (hs : rules.Sound) (hn : page.Numbered)
  (hp : p ∈ (Place.top page).all)

include hs hn hp

/-- A block has the marker that the page calls for; on any other element the class is left alone. -/
theorem carries_container_sweepEdit (h : Settled rules page) :
    carries rules.containerClass (p.node.retouch (.heads (sweepEdit rules sizes page))) =
      carries rules.containerClass p.node := by
  obtain ⟨heq, hg⟩ := sweep_eq sizes hs hn
  have hswept := (sweep_swept sizes hs.distinct hn).settled
  rw [heq] at hswept
  by_cases hb : isBlock rules.blockTags p.node = true
  · have hblock := mem_blocks.mpr ⟨hp, hb⟩
    have hblock' := List.mem_map_of_mem
      (f := Place.retouch (.heads (sweepEdit rules sizes page))) hblock
    rw [← hg.blocks_retouch] at hblock'
    have hwritten := hswept.blocks _ hblock'
    rw [hg.isSolo_retouch hp] at hwritten
    exact hwritten.trans (h.blocks p hblock).symm
  · cases hnode : p.node with
    | leaf i k s => rfl
    | element i e cs =>
        refine sweepEdit_keeps (P := fun e' => e'.classes.contains rules.containerClass =
          e.classes.contains rules.containerClass) ?_ ?_ rfl
        · intro b hb' hid
          obtain ⟨hball, hblock⟩ := mem_blocks.mp hb'
          have hbp : b = p := Place.eq_of_id_eq (r := Place.top page) hn hball hp
            (hid.trans (by rw [hnode]; rfl))
          exact absurd (hbp ▸ hblock) hb
        · intro q _ _ alone e' he'
          rw [paint, Sizes.style, classes_withAttr_other _ _ (by decide),
            Marker.contains_put_other alone e' hs.container_ne_image, he']

/-- The same for stickers and their marker. -/
theorem carries_image_sweepEdit (h : Settled rules page) :
    carries rules.imageClass (p.node.retouch (.heads (sweepEdit rules sizes page))) =
      carries rules.imageClass p.node := by
  obtain ⟨heq, hg⟩ := sweep_eq sizes hs hn
  have hswept := (sweep_swept sizes hs.distinct hn).settled
  rw [heq] at hswept
  by_cases hf : p ∈ stickers rules.stickerClass (Place.top page)
  · have hf' := List.mem_map_of_mem
      (f := Place.retouch (.heads (sweepEdit rules sizes page))) hf
    rw [← hg.stickers_retouch List.mem_cons_self] at hf'
    have hwritten := hswept.images _ hf'
    rw [hg.standsAlone_retouch] at hwritten
    exact hwritten.trans (h.images p hf).symm
  · cases hnode : p.node with
    | leaf i k s => rfl
    | element i e cs =>
        refine sweepEdit_keeps (P := fun e' => e'.classes.contains rules.imageClass =
          e.classes.contains rules.imageClass) ?_ ?_ rfl
        · intro b _ _ called e' he'
          rw [Marker.contains_put_other called e' hs.container_ne_image.symm, he']
        · intro q hq hid
          have hqp : q = p := Place.eq_of_id_eq (r := Place.top page) hn
            (stickers_subset_all List.mem_cons_self hq) hp (hid.trans (by rw [hnode]; rfl))
          exact absurd (hqp ▸ hq) hf

end

/-- **Sweeping a settled page changes no marker.** -/
theorem markers_sweep (sizes : Sizes) (hs : rules.Sound) (hn : page.Numbered)
    (h : Settled rules page) :
    markers rules (sweep rules sizes page).1 = markers rules page := by
  rw [(sweep_eq sizes hs hn).1, markers, markers, Node.nodes_retouch, List.map_map]
  refine List.map_congr_left fun n hmem => ?_
  obtain ⟨p, hp, rfl⟩ := Place.exists_of_mem_nodes hmem
  rw [Function.comp_apply, Node.id_retouch_heads, carries_container_sweepEdit sizes hs hn hp h,
    carries_image_sweepEdit sizes hs hn hp h]

end StickerPages.Layout
