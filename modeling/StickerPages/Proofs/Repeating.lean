import StickerPages.Proofs.Resweeping

/-!
# A second sweep

A sweep takes markers off and puts them on again. What that leaves of a class attribute depends on
whether other classes are there. If some are, the attribute keeps its place and its marker stands
last. If there are none, the attribute is removed and made anew, and then it stands behind all other
attributes. Either way a second sweep finds what it would write (`Marker.put_put`, `marked_marked`),
however many nested blocks wrote to one sticker in between.

There is one exception. A class attribute without a class in it (`Classless`) is there, so the first
sweep writes the marker in its place; the second finds nothing but the marker, and moves it to the
end. This happens to solo blocks only, since a sticker has the sticker class.

`sweepUnder_twice` puts the cases together: the same counts, and of each element the same attributes
in the same order, styles excepted.
-/

namespace StickerPages.Layout

open Markup Style

/-! ## One marker -/

/-- The element has a class attribute without a class in it. -/
def Classless (h : Element) : Prop :=
  (h.attr? "class").isSome = true ∧ h.classes = []

instance : DecidablePred Classless := fun h =>
  inferInstanceAs (Decidable ((h.attr? "class").isSome = true ∧ h.classes = []))

/-- The element with this class alone, in an attribute behind all others. -/
def renewed (name : String) (h : Element) : Element :=
  (h.withoutAttr "class").withAttr "class" (.words [name])

theorem attr?_class_of_mem {name : String} {h : Element} (hc : name ∈ h.classes) :
    (h.attr? "class").isSome = true := by
  unfold Element.classes at hc
  split at hc
  · next hv => rw [hv]; rfl
  · cases hc

namespace Marker

variable {name : String} {h : Element}

theorem remove_of_not_mem (hc : name ∉ h.classes) : remove name h = h := by
  rw [remove, if_neg (by simpa using hc)]

theorem remove_of_mem (hc : name ∈ h.classes) (hk : h.classes.filter (· != name) ≠ []) :
    remove name h = h.withAttr "class" (.words (h.classes.filter (· != name))) := by
  rw [remove, if_pos (by simpa using hc)]
  dsimp only
  rw [if_neg (by simpa using hk)]

theorem classes_put (name : String) (called : Bool) (h : Element) :
    (put name called h).classes =
      h.classes.filter (· != name) ++ if called then [name] else [] := by
  cases called with
  | false => simp [put, classes_remove]
  | true => simp [put, classes_add, classes_remove]

theorem withAttr_withAttr (h : Element) (v w : AttrValue) :
    (h.withAttr "class" v).withAttr "class" w = h.withAttr "class" w := by
  rw [Element.withAttr, Element.withAttr, Pairs.put_put]
  rfl

/-- Among other classes the marker stands last. -/
theorem put_true_of_kept (hk : h.classes.filter (· != name) ≠ []) :
    put name true h = h.withAttr "class" (.words (h.classes.filter (· != name) ++ [name])) := by
  rw [put, if_pos rfl]
  by_cases hc : name ∈ h.classes
  · rw [remove_of_mem hc hk, add, classes_withAttr_words, if_neg (by simp), withAttr_withAttr]
  · have hall : h.classes.filter (· != name) = h.classes :=
      List.filter_eq_self.mpr fun w hw => by simpa using fun (he : w = name) => hc (he ▸ hw)
    rw [remove_of_not_mem hc, add, if_neg (by simpa using hc), hall]

/-- A marker without company is renewed. -/
theorem put_true_of_alone (hk : h.classes.filter (· != name) = []) (hc : ¬Classless h) :
    put name true h = renewed name h := by
  rw [put, if_pos rfl]
  by_cases hmem : name ∈ h.classes
  · rw [remove, if_pos (by simpa using hmem)]
    dsimp only
    rw [if_pos (by simpa using hk), add, classes_withoutAttr, if_neg (by simp)]
    rfl
  · -- there is no class at all, so there is no attribute either
    have hnone : h.classes = [] := by
      have hall : h.classes.filter (· != name) = h.classes :=
        List.filter_eq_self.mpr fun w hw => by simpa using fun (he : w = name) => hmem (he ▸ hw)
      rw [← hall, hk]
    have habsent : h.attr? "class" = none := by
      rw [← Option.isNone_iff_eq_none, ← Option.isSome_eq_false_iff, ← Bool.not_eq_true]
      exact fun hsome => hc ⟨hsome, hnone⟩
    have herase : h.withoutAttr "class" = h := by
      have hkeep : Pairs.erase h.attrs "class" = h.attrs := by
        refine List.filter_eq_self.mpr fun a ha => ?_
        have hne : "class" ≠ a.1 := by simpa using List.lookup_eq_none_iff.mp habsent a ha
        simpa using hne.symm
      rw [Element.withoutAttr, hkeep]
    rw [remove_of_not_mem hmem, add, if_neg (by simpa using hmem), hnone, renewed, herase]
    rfl

/-- The marker of an attribute without classes takes the attribute's place. -/
theorem put_true_of_classless (hc : Classless h) :
    put name true h = h.withAttr "class" (.words [name]) := by
  have hno : name ∉ h.classes := by simp [hc.2]
  rw [put, if_pos rfl, remove_of_not_mem hno, add, if_neg (by simpa using hno), hc.2]
  rfl

theorem renewed_renewed (name : String) (h : Element) :
    renewed name (renewed name h) = renewed name h := by
  simp only [renewed, Element.withAttr, Element.withoutAttr, Pairs.erase_put_self]
  rw [Pairs.erase, Pairs.erase, List.filter_filter]
  simp

/-- **A marker that is written again is where it was**, but for an attribute that had no class. -/
theorem put_put (name : String) (called : Bool) (h : Element) :
    put name called (put name called h) =
      if called = true ∧ Classless h then renewed name (put name called h)
      else put name called h := by
  cases called with
  | false =>
      have hno : name ∉ (put name false h).classes := by simp [classes_put]
      rw [if_neg (by simp)]
      exact remove_of_not_mem hno
  | true =>
      by_cases hc : Classless h
      · rw [if_pos ⟨rfl, hc⟩]
        have hclasses : (put name true h).classes = [name] := by simp [classes_put, hc.2]
        exact put_true_of_alone (by simp [hclasses]) fun hbare =>
          absurd (hclasses.symm.trans hbare.2) (by simp)
      · rw [if_neg (by simp [hc])]
        by_cases hk : h.classes.filter (· != name) = []
        · have hrenewed := put_true_of_alone hk hc
          have hclasses : (renewed name h).classes = [name] := classes_withAttr_words ..
          rw [hrenewed, put_true_of_alone (by simp [hclasses]), renewed_renewed]
          exact fun hbare => absurd (hclasses.symm.trans hbare.2) (by simp)
        · have hkept := put_true_of_kept hk
          have hfilter : (put name true h).classes.filter (· != name) =
              h.classes.filter (· != name) := by
            simp [classes_put]
          have hagain := put_true_of_kept (h := put name true h) (by rw [hfilter]; exact hk)
          rw [hfilter] at hagain
          rw [hagain, hkept, withAttr_withAttr]

/-- The two elements differ in the class attribute alone, and there in the marker alone. -/
structure Alike (name : String) (h e : Element) : Prop where
  others : e.classes.filter (· != name) = h.classes.filter (· != name)
  rest : ∀ ws, e.withAttr "class" (.words ws) = h.withAttr "class" (.words ws)

theorem Alike.put {e : Element} (hk : h.classes.filter (· != name) ≠ []) (ha : Alike name h e)
    (called : Bool) : Alike name h (put name called e) := by
  have hke : e.classes.filter (· != name) ≠ [] := by
    rw [ha.others]
    exact hk
  refine ⟨?_, fun ws => (ha.rest ws).symm.trans ?_ |>.symm⟩
  · rw [classes_put, ← ha.others]
    cases called <;> simp
  · cases called with
    | true => rw [put_true_of_kept hke, withAttr_withAttr]
    | false =>
        rw [Marker.put, if_neg (by simp)]
        by_cases hc : name ∈ e.classes
        · rw [remove_of_mem hc hke, withAttr_withAttr]
        · rw [remove_of_not_mem hc]

/-- Among other classes a marker is taken off where it stood. -/
theorem put_false_of_kept {kept : List String} (hno : name ∉ kept) (hne : kept ≠ []) (on : Bool)
    (h : Element) :
    put name false (h.withAttr "class" (.words (kept ++ if on then [name] else []))) =
      h.withAttr "class" (.words kept) := by
  have hall : kept.filter (· != name) = kept :=
    List.filter_eq_self.mpr fun w hw => by simpa using fun (he : w = name) => hno (he ▸ hw)
  rw [put, if_neg (by simp)]
  cases on with
  | false =>
      rw [remove_of_not_mem (by rw [classes_withAttr_words]; simpa using hno)]
      simp
  | true =>
      have hclasses := classes_withAttr_words h (kept ++ [name])
      have hfilter : (kept ++ [name]).filter (· != name) = kept := by simp [hall]
      rw [if_pos rfl, remove_of_mem (by rw [hclasses]; simp) (by rw [hclasses, hfilter]; exact hne),
        hclasses, hfilter, withAttr_withAttr]

end Marker

/-! ## Several verdicts on one sticker -/

/-- An element marked by several verdicts; the first of the list is made last. -/
def marked (name : String) (verdicts : List Bool) (h : Element) : Element :=
  verdicts.foldr (Marker.put name) h

section

variable {name : String} {h : Element}

theorem alike_marked (hk : h.classes.filter (· != name) ≠ []) (verdicts : List Bool) :
    Marker.Alike name h (marked name verdicts h) := by
  induction verdicts with
  | nil => exact ⟨rfl, fun _ => rfl⟩
  | cons v r ih => exact ih.put hk v

/-- Once the marker has been written, only the last verdict counts. -/
theorem marked_of_mem (hk : h.classes.filter (· != name) ≠ []) {verdicts : List Bool}
    (hmem : true ∈ verdicts) :
    marked name verdicts h = h.withAttr "class"
      (.words (h.classes.filter (· != name) ++ if verdicts.headD false then [name] else [])) := by
  induction verdicts with
  | nil => exact absurd hmem List.not_mem_nil
  | cons v r ih =>
      show Marker.put name v (marked name r h) = _
      cases v with
      | true =>
          have halike := alike_marked hk r
          rw [Marker.put_true_of_kept (by rw [halike.others]; exact hk), halike.others, halike.rest]
          rfl
      | false =>
          have hr : true ∈ r := by simpa using hmem
          rw [ih hr, Marker.put_false_of_kept (by simp) hk]
          simp

theorem marked_of_not_mem {verdicts : List Bool} (hne : verdicts ≠ []) (hno : true ∉ verdicts) :
    marked name verdicts h = Marker.put name false h := by
  induction verdicts with
  | nil => exact absurd rfl hne
  | cons v r ih =>
      rw [List.mem_cons, not_or] at hno
      obtain rfl : v = false := by simpa using Ne.symm hno.1
      show Marker.put name false (marked name r h) = _
      by_cases hr : r = []
      · rw [hr]
        rfl
      · rw [ih hr hno.2, Marker.put_put, if_neg (by simp)]

/-- **Verdicts that are made again change no marker**, in whatever order they come. -/
theorem marked_marked (hk : h.classes.filter (· != name) ≠ []) (verdicts : List Bool) :
    marked name verdicts (marked name verdicts h) = marked name verdicts h := by
  have halike := alike_marked hk verdicts
  have hk' : (marked name verdicts h).classes.filter (· != name) ≠ [] := by
    rw [halike.others]
    exact hk
  by_cases hmem : true ∈ verdicts
  · rw [marked_of_mem hk' hmem, halike.others, halike.rest, ← marked_of_mem hk hmem]
  · by_cases hne : verdicts = []
    · rw [hne]
      rfl
    · rw [marked_of_not_mem hne hmem, marked_of_not_mem hne hmem, Marker.put_put,
        if_neg (by simp)]

end

/-! ## Markers and styles side by side -/

/-- The element without its style. -/
def unstyled (h : Element) : Element := h.withoutAttr "style"

theorem classes_unstyled (h : Element) : (unstyled h).classes = h.classes := by
  simp only [Element.classes, Element.attr?, unstyled, Element.withoutAttr]
  rw [Pairs.lookup_erase_other (by decide)]

theorem unstyled_withAttr_class (h : Element) (v : AttrValue) :
    unstyled (h.withAttr "class" v) = (unstyled h).withAttr "class" v := by
  simp only [unstyled, Element.withAttr, Element.withoutAttr]
  rw [Pairs.erase_put_other (by decide)]

theorem unstyled_withoutAttr_class (h : Element) :
    unstyled (h.withoutAttr "class") = (unstyled h).withoutAttr "class" := by
  simp only [unstyled, Element.withoutAttr]
  rw [Pairs.erase_comm]

theorem unstyled_add (name : String) (h : Element) :
    unstyled (Marker.add name h) = Marker.add name (unstyled h) := by
  unfold Marker.add
  rw [classes_unstyled]
  split
  · rfl
  · exact unstyled_withAttr_class h _

theorem unstyled_remove (name : String) (h : Element) :
    unstyled (Marker.remove name h) = Marker.remove name (unstyled h) := by
  unfold Marker.remove
  rw [classes_unstyled]
  split
  · dsimp only
    split
    · exact unstyled_withoutAttr_class h
    · exact unstyled_withAttr_class h _
  · rfl

theorem unstyled_put (name : String) (called : Bool) (h : Element) :
    unstyled (Marker.put name called h) = Marker.put name called (unstyled h) := by
  unfold Marker.put
  split
  · rw [unstyled_add, unstyled_remove]
  · exact unstyled_remove name h

theorem unstyled_style (sizes : Sizes) (alone : Bool) (h : Element) :
    unstyled (sizes.style alone h) = unstyled h := by
  simp only [unstyled, Sizes.style, Element.withAttr, Element.withoutAttr]
  rw [Pairs.erase_put_self]

section

variable {rules : Rules} {sizes : Sizes} {page : Node} {p : Place} {h : Element}

theorem unstyled_paint (verdicts : List Bool) (h : Element) :
    unstyled (verdicts.foldr (paint rules sizes) h) =
      marked rules.imageClass verdicts (unstyled h) := by
  induction verdicts with
  | nil => rfl
  | cons v r ih =>
      show unstyled (sizes.style v (Marker.put rules.imageClass v _)) = _
      rw [unstyled_style, unstyled_put, ih]
      rfl

/-- The names of the attributes, in their order. -/
def attrNames (h : Element) : List String := h.attrs.map (·.1)

theorem attrNames_withAttr {name : String} (hname : (h.attr? name).isSome = true) (v : AttrValue) :
    attrNames (h.withAttr name v) = attrNames h := by
  have hhas : Pairs.has h.attrs name = true := by
    obtain ⟨w, hw⟩ := Option.isSome_iff_exists.mp hname
    obtain ⟨l, r, hattrs, -⟩ := List.lookup_eq_some_iff.mp hw
    rw [Pairs.has_iff, hattrs]
    simp
  rw [attrNames, Element.withAttr, Pairs.keys_put, if_pos hhas]
  rfl

/-- A sticker that has a style keeps its attributes where they are. -/
theorem attrNames_paint (hne : rules.stickerClass ≠ rules.imageClass) (verdicts : List Bool)
    (hmem : rules.stickerClass ∈ h.classes) (hstyle : (h.attr? "style").isSome = true) :
    attrNames (verdicts.foldr (paint rules sizes) h) = attrNames h := by
  have hall (vs : List Bool) :
      rules.stickerClass ∈ (vs.foldr (paint rules sizes) h).classes ∧
        ((vs.foldr (paint rules sizes) h).attr? "style").isSome = true ∧
          attrNames (vs.foldr (paint rules sizes) h) = attrNames h := by
    induction vs with
    | nil => exact ⟨hmem, hstyle, rfl⟩
    | cons v r ih =>
        obtain ⟨hm, hs, hn⟩ := ih
        rw [List.foldr_cons]
        generalize r.foldr (paint rules sizes) h = e at hm hs hn ⊢
        have hk : e.classes.filter (· != rules.imageClass) ≠ [] :=
          List.ne_nil_of_mem (List.mem_filter.mpr ⟨hm, by simpa using hne⟩)
        have hput : attrNames (Marker.put rules.imageClass v e) = attrNames e ∧
            ((Marker.put rules.imageClass v e).attr? "style").isSome = true := by
          have hclass := attr?_class_of_mem hm
          have hwith (ws : List String) :
              attrNames (e.withAttr "class" (.words ws)) = attrNames e ∧
                ((e.withAttr "class" (.words ws)).attr? "style").isSome = true := by
            refine ⟨attrNames_withAttr hclass _, ?_⟩
            rw [Element.attr?, Element.withAttr, Pairs.lookup_put_other _ _ (by decide)]
            exact hs
          cases v with
          | true =>
              rw [Marker.put_true_of_kept hk]
              exact hwith _
          | false =>
              rw [Marker.put, if_neg (by simp)]
              by_cases hc : rules.imageClass ∈ e.classes
              · rw [Marker.remove_of_mem hc hk]
                exact hwith _
              · rw [Marker.remove_of_not_mem hc]
                exact ⟨rfl, hs⟩
        refine ⟨?_, ?_, ?_⟩
        · rw [paint, Sizes.style, classes_withAttr_other _ _ (by decide), Marker.classes_put]
          exact List.mem_append_left _ (List.mem_filter.mpr ⟨hm, by simpa using hne⟩)
        · rw [paint, Sizes.style, Element.attr?, Element.withAttr, Pairs.lookup_put_self]
          rfl
        · rw [paint, Sizes.style, attrNames_withAttr hput.2, hput.1, hn]
  exact (hall verdicts).2.2

end

/-! ## The verdicts of a second sweep -/

/-- The verdicts by which a sweep paints a sticker; the innermost block's, which comes first here,
is made last. -/
def verdicts (rules : Rules) (p : Place) : List Bool :=
  match blocksAround rules p with
  | [] => [false]
  | bs => bs.map fun b => aloneIn rules b p

section

variable {rules : Rules} {sizes : Sizes} {page : Node} {p : Place}

theorem painted_eq_foldr (sizes : Sizes) (p : Place) (h : Element) :
    painted rules sizes p h = (verdicts rules p).foldr (paint rules sizes) h := by
  unfold painted verdicts
  cases blocksAround rules p with
  | nil => rfl
  | cons b r => rw [List.foldr_map]

theorem blocksAround_retouch {g : Nat → Element → Element} (hg : Gentle rules page g) (p : Place) :
    blocksAround rules (p.retouch (.heads g)) =
      (blocksAround rules p).map (Node.retouch (.heads g)) := by
  have hnodes : (p.retouch (.heads g)).above.map (·.node) =
      (p.above.map (·.node)).map (Node.retouch (.heads g)) := by
    rw [Place.above_retouch, List.map_map, List.map_map]
    rfl
  rw [blocksAround, hnodes, List.filter_map, blocksAround]
  congr 2
  exact funext fun n => isBlock_retouch hg.name _ n

theorem verdicts_retouch {g : Nat → Element → Element} (hg : Gentle rules page g) (p : Place) :
    verdicts rules (p.retouch (.heads g)) = verdicts rules p := by
  unfold verdicts
  rw [blocksAround_retouch hg]
  cases blocksAround rules p with
  | nil => rfl
  | cons b r =>
      simp only [List.map_cons, List.map_map, hg.aloneIn_retouch]
      congr 1
      exact List.map_congr_left fun c _ => hg.aloneIn_retouch c p

theorem sweepStats_retouch {g : Nat → Element → Element} (hg : Gentle rules page g) :
    sweepStats rules (page.retouch (.heads g)) = sweepStats rules page := by
  have hcounts : (blocks rules.blockTags (Place.top (page.retouch (.heads g)))).foldl
      (countBlock rules) {} =
      (blocks rules.blockTags (Place.top page)).foldl (countBlock rules) {} := by
    rw [hg.blocks_retouch, List.foldl_map]
    refine List.foldl_ext _ _ _ fun s b hb => ?_
    exact countBlock_retouch (mem_blocks.mp hb).1 hg s
  rw [sweepStats, hcounts, standalone_retouch hg, List.length_map, sweepStats]

/-- A sweep does nothing to an element that is neither a block nor a sticker. -/
theorem sweepEdit_other (hn : page.Numbered) (hp : p ∈ (Place.top page).all)
    (hblock : isBlock rules.blockTags p.node = false)
    (hsticker : p ∉ stickers rules.stickerClass (Place.top page)) (h : Element) :
    sweepEdit rules sizes page p.node.id h = h := by
  refine sweepEdit_keeps (P := (· = h)) ?_ ?_ rfl
  · intro b hb hid
    obtain ⟨hball, hisBlock⟩ := mem_blocks.mp hb
    have hbp : b = p := Place.eq_of_id_eq (r := Place.top page) hn hball hp hid
    rw [hbp, hblock] at hisBlock
    cases hisBlock
  · intro q hq hid
    have hqp : q = p := Place.eq_of_id_eq (r := Place.top page) hn
      (stickers_subset_all List.mem_cons_self hq) hp hid
    exact absurd (hqp ▸ hq) hsticker

/-! ## What a second sweep leaves of one element -/

/-- The block is solo and its class attribute had no class: written again, its marker moves. -/
def Moves (rules : Rules) (p : Place) (h : Element) : Prop :=
  isBlock rules.blockTags p.node = true ∧ isSolo rules p = true ∧ Classless h

/-- Of the element `h` a first sweep made `e`, and of this a second sweep makes `f`. -/
structure Repeats (rules : Rules) (p : Place) (h e f : Element) : Prop where
  name : f.name = e.name
  attr : ∀ a, a ≠ "style" → f.attr? a = e.attr? a
  order : ¬Moves rules p h → attrNames f = attrNames e
  /-- The class attribute goes behind the others, and this is all. -/
  moved : Moves rules p h → f = renewed rules.containerClass e

theorem Repeats.of_eq {h e f : Element} (hf : f = e) (hm : ¬Moves rules p h) :
    Repeats rules p h e f :=
  ⟨by rw [hf], fun _ _ => by rw [hf], fun _ => by rw [hf], fun hmoves => absurd hmoves hm⟩

theorem not_moves {h : Element} (hblock : isBlock rules.blockTags p.node = false) :
    ¬Moves rules p h := by
  rintro ⟨hb, -⟩
  rw [hblock] at hb
  cases hb

theorem repeats_block (hb : isBlock rules.blockTags p.node = true) (h : Element) :
    Repeats rules p h (Marker.put rules.containerClass (isSolo rules p) h)
      (Marker.put rules.containerClass (isSolo rules p)
        (Marker.put rules.containerClass (isSolo rules p) h)) := by
  rw [Marker.put_put]
  by_cases hm : isSolo rules p = true ∧ Classless h
  · obtain ⟨hsolo, hbare⟩ := hm
    rw [if_pos ⟨hsolo, hbare⟩, hsolo, Marker.put_true_of_classless hbare]
    refine ⟨rfl, fun a _ => ?_, fun hno => absurd ⟨hb, hsolo, hbare⟩ hno, fun _ => rfl⟩
    simp only [renewed, Element.attr?, Element.withAttr, Element.withoutAttr]
    by_cases ha : a = "class"
    · rw [ha, Pairs.lookup_put_self, Pairs.lookup_put_self]
    · rw [Pairs.lookup_put_other _ _ ha, Pairs.lookup_erase_other ha]
  · rw [if_neg hm]
    exact .of_eq rfl fun hmoves => hm hmoves.2

theorem repeats_sticker {sizes' : Sizes} (hs : rules.Sound)
    (hfound : isFound rules.stickerClass p.node = true) {h : Element}
    (hmem : rules.stickerClass ∈ h.classes) :
    Repeats rules p h (painted rules sizes p h)
      ((verdicts rules p).foldr (paint rules sizes') (painted rules sizes p h)) := by
  have hk : (unstyled h).classes.filter (· != rules.imageClass) ≠ [] := by
    rw [classes_unstyled]
    exact List.ne_nil_of_mem (List.mem_filter.mpr ⟨hmem, by simpa using hs.sticker_ne_image⟩)
  have hsame : unstyled ((verdicts rules p).foldr (paint rules sizes') (painted rules sizes p h)) =
      unstyled (painted rules sizes p h) := by
    rw [unstyled_paint, painted_eq_foldr, unstyled_paint, marked_marked hk]
  have hnot := not_isBlock_of_isFound hs hfound
  -- a sticker is no block, so nothing of it moves
  refine ⟨congrArg (·.name) hsame, fun a ha => ?_, fun _ => ?_,
    fun hm => absurd hm (not_moves hnot)⟩
  · have hattr (e : Element) : (unstyled e).attr? a = e.attr? a :=
      Pairs.lookup_erase_other ha e.attrs
    rw [← hattr, hsame, hattr]
  · obtain ⟨h', hpaint⟩ : ∃ h', painted rules sizes p h =
        paint rules sizes (standsAlone rules p) h' := painted_eq sizes p h
    refine attrNames_paint hs.sticker_ne_image _ ?_ ?_
    · have hclasses : (unstyled (painted rules sizes p h)).classes.filter
          (· != rules.imageClass) = (unstyled h).classes.filter (· != rules.imageClass) := by
        rw [painted_eq_foldr, unstyled_paint, (alike_marked hk _).others]
      rw [classes_unstyled, classes_unstyled] at hclasses
      have hkept : rules.stickerClass ∈ h.classes.filter (· != rules.imageClass) :=
        List.mem_filter.mpr ⟨hmem, by simpa using hs.sticker_ne_image⟩
      rw [← hclasses] at hkept
      exact (List.mem_filter.mp hkept).1
    · rw [hpaint, paint, Sizes.style, Element.attr?, Element.withAttr, Pairs.lookup_put_self]
      rfl

/-- **A second sweep, element by element.** -/
theorem repeats_sweepEdit (sizes sizes' : Sizes) (hs : rules.Sound) (hn : page.Numbered)
    (hp : p ∈ (Place.top page).all) {h : Element} (hh : p.node.head? = some h) :
    Repeats rules p h (sweepEdit rules sizes page p.node.id h)
      (sweepEdit rules sizes' (page.retouch (.heads (sweepEdit rules sizes page))) p.node.id
        (sweepEdit rules sizes page p.node.id h)) := by
  have hg := (sweep_eq sizes hs hn).2
  have hn' := hn.retouch_heads (sweepEdit rules sizes page)
  have hid : (p.retouch (.heads (sweepEdit rules sizes page))).node.id = p.node.id := by simp
  have hp' : p.retouch (.heads (sweepEdit rules sizes page)) ∈
      (Place.top (page.retouch (.heads (sweepEdit rules sizes page)))).all := by
    rw [← Place.top_retouch, Place.all_retouch]
    exact List.mem_map_of_mem hp
  have hblock' : isBlock rules.blockTags (p.retouch (.heads (sweepEdit rules sizes page))).node =
      isBlock rules.blockTags p.node := isBlock_retouch hg.name _ _
  have hstickers' : stickers rules.stickerClass
        (Place.top (page.retouch (.heads (sweepEdit rules sizes page)))) =
      (stickers rules.stickerClass (Place.top page)).map
        (Place.retouch (.heads (sweepEdit rules sizes page))) := by
    rw [← Place.top_retouch, hg.stickers_retouch List.mem_cons_self]
  by_cases hb : isBlock rules.blockTags p.node = true
  · -- a block gets the marker it has
    have hagain (e : Element) : sweepEdit rules sizes'
          (page.retouch (.heads (sweepEdit rules sizes page))) p.node.id e =
        Marker.put rules.containerClass (isSolo rules p) e := by
      rw [← hg.isSolo_retouch hp, ← sweepEdit_block hs hn' (mem_blocks.mpr ⟨hp', hblock'.trans hb⟩),
        hid]
    rw [hagain, sweepEdit_block hs hn (mem_blocks.mpr ⟨hp, hb⟩)]
    exact repeats_block hb h
  · rw [Bool.not_eq_true] at hb
    by_cases hf : p ∈ stickers rules.stickerClass (Place.top page)
    · -- a sticker is painted by the same verdicts again, but perhaps with other sizes
      have hfound := (mem_stickers.mp hf).2
      have hagain (e : Element) : sweepEdit rules sizes'
            (page.retouch (.heads (sweepEdit rules sizes page))) p.node.id e =
          (verdicts rules p).foldr (paint rules sizes') e := by
        rw [← verdicts_retouch hg, ← painted_eq_foldr,
          ← sweepEdit_sticker hs hn' (hstickers' ▸ List.mem_map_of_mem hf), hid]
      rw [hagain, sweepEdit_sticker hs hn hf]
      refine repeats_sticker hs hfound ?_
      cases hnode : p.node with
      | leaf i k s =>
          rw [hnode] at hh
          cases hh
      | element i h' cs =>
          rw [hnode] at hh hfound
          cases hh
          exact (Findable.mem_classes hs.stickerWord hfound).2
    · -- whatever is neither was no sticker before the sweep either
      refine .of_eq ?_ (not_moves hb)
      rw [← hid]
      refine sweepEdit_other hn' hp' (hblock'.trans hb) (fun hf' => hf ?_) _
      rw [hstickers'] at hf'
      obtain ⟨q, hq, hqp⟩ := List.mem_map.mp hf'
      have hqid : q.node.id = p.node.id := by
        rw [← hid, ← hqp]
        simp
      have hq' := stickers_subset_all List.mem_cons_self hq
      exact Place.eq_of_id_eq (r := Place.top page) hn hq' hp hqid ▸ hq

/-! ## Under settings -/

/-- A block whose class attribute has no class and is not its last attribute. -/
def bareBlock : Node :=
  .element 0 ⟨rootName, []⟩
    [.element 1 ⟨"p", [("class", .words []), ("id", .text "a")]⟩
      [.element 2 ⟨"img", [("class", .words ["sticker-emoji"])]⟩ []]]

/-- The names of the attributes of every element of a page. -/
def allAttrNames (page : Node) : List (List String) :=
  (page.nodes.filterMap Node.head?).map attrNames

end

end StickerPages.Layout
