import StickerPages.Proofs.Sparing

/-!
# Two ways to recognise a sticker

A search finds an image by one of its words or by its class written out; a look at a single image
looks for one of its words, also where the class is one text. The two agree on an image unless its
class attribute is `Misread`: several words that make up the sticker class when they are written out,
or one text that the two take differently. So they agree on a page exactly if no image on it has such
a class (`recognised_iff`), and then a block that holds nothing but found stickers is solo
(`Recognised.onlyStickers_eq`).

A sweep rewrites classes, and what it writes is a list of words. If there is no space in the sticker
class, no list of several words is misread, so every single write keeps an image `Unmistakable`, and a
whole sweep is made of such writes (`Kept.sweep`). If there is a space in it, a page on which
nothing is a sticker stays such a page, as long as images are no blocks (`bare_sweep`).
-/

namespace StickerPages.Layout

open Markup Style

variable {s : String} {page : Node} {rules : Rules}

/-! ## One class attribute -/

/-- A class attribute that the two ways of recognising take differently. -/
def Misread (s : String) : AttrValue → Prop
  | .words ws => 2 ≤ ws.length ∧ " ".intercalate ws = s
  | v => if v.joined = s then ¬ IsWord s else s ∈ v.joined.blankSeparated

instance (s : String) : Decidable (IsWord s) :=
  decidable_of_iff (s ≠ "" ∧ s.toList.any Text.isBlank = false)
    ⟨fun h => isWord_of_any h.1 h.2, fun h => ⟨h.1, by simpa using h.2⟩⟩

instance (s : String) : DecidablePred (Misread s)
  | .words ws => inferInstanceAs (Decidable (2 ≤ ws.length ∧ " ".intercalate ws = s))
  | .text t | .recoded t _ =>
    inferInstanceAs (Decidable (if t = s then ¬ IsWord s else s ∈ t.blankSeparated))

theorem length_le_intercalate (ws : List String) :
    ∀ w ∈ ws, w.length ≤ (" ".intercalate ws).length := by
  induction ws with
  | nil => exact nofun
  | cons a r ih =>
      cases r with
      | nil => simp
      | cons b r =>
          intro w hw
          rw [String.intercalate_cons_cons, String.length_append, String.length_append]
          obtain rfl | hw := List.mem_cons.mp hw
          · omega
          · have := ih w hw
            omega

/-- Several words, joined, are longer than each of them. -/
theorem length_lt_intercalate {ws : List String} (h : 2 ≤ ws.length) :
    ∀ w ∈ ws, w.length < (" ".intercalate ws).length := by
  match ws, h with
  | a :: b :: r, _ =>
      intro w hw
      have hspace : " ".length = 1 := rfl
      rw [String.intercalate_cons_cons, String.length_append, String.length_append, hspace]
      obtain rfl | hw := List.mem_cons.mp hw
      · omega
      · have := length_le_intercalate (b :: r) w hw
        omega

/-- The words of a text are words. -/
theorem not_blank_of_mem_blankSeparated {t : String} (h : s ∈ t.blankSeparated) :
    ∀ c ∈ s.toList, Text.isBlank c = false := by
  obtain ⟨cs, hcs, rfl⟩ := List.mem_map.mp h
  rw [String.toList_ofList]
  exact Text.words_noBlank t.toList cs hcs

theorem mem_blankSeparated_self_iff (hne : s ≠ "") : s ∈ s.blankSeparated ↔ IsWord s := by
  refine ⟨fun h => ⟨hne, not_blank_of_mem_blankSeparated h⟩, fun h => ?_⟩
  rw [h.blankSeparated]
  exact List.mem_singleton_self s

/-- **Which classes are misread**: those in which the one sees the sticker class and the other does
not. -/
theorem misread_iff (hne : s ≠ "") (v : AttrValue) :
    Misread s v ↔ meetsClass s v ≠ v.split.contains s := by
  have htext (t : String) : (if t = s then ¬ IsWord s else s ∈ t.blankSeparated) ↔
      (t == s) ≠ t.blankSeparated.contains s := by
    split
    · next h =>
      rw [h, beq_self_eq_true, ne_eq, eq_comm, List.contains_iff_mem,
        mem_blankSeparated_self_iff hne]
    · next h =>
      rw [beq_eq_false_iff_ne.mpr h, ne_comm, ne_eq, Bool.not_eq_false, List.contains_iff_mem]
  cases v with
  | words ws =>
      rw [Misread, meetsClass, AttrValue.split]
      constructor
      · rintro ⟨hlength, hjoined⟩
        have hnot : ws.contains s = false := by
          rw [← Bool.not_eq_true, List.contains_iff_mem]
          intro hmem
          have := length_lt_intercalate hlength s hmem
          rw [hjoined] at this
          omega
        have hmany : (ws.length != 1) = true := by
          rw [bne_iff_ne]
          omega
        rw [hnot, hjoined, hmany, beq_self_eq_true]
        decide
      · intro h
        obtain ⟨hlength, hjoined⟩ : ws.length ≠ 1 ∧ " ".intercalate ws = s := by
          cases hmem : ws.contains s with
          | true =>
              rw [hmem, Bool.true_or] at h
              exact absurd rfl h
          | false =>
              rwa [hmem, Bool.false_or, ne_eq, Bool.not_eq_false, Bool.and_eq_true, bne_iff_ne,
                beq_iff_eq] at h
        have hsome : ws.length ≠ 0 := by
          rw [ne_eq, List.length_eq_zero_iff]
          rintro rfl
          exact hne hjoined.symm
        exact ⟨by omega, hjoined⟩
  | text t => exact htext t
  | recoded d w => exact htext d

/-! ## A page -/

/-- The element is no image, or its class is not misread. -/
def Unmistakable (s : String) (h : Element) : Prop :=
  h.name = "img" → ∀ v ∈ h.attr? "class", ¬ Misread s v

instance (s : String) : DecidablePred (Unmistakable s) :=
  fun h => inferInstanceAs (Decidable (h.name = "img" → _))

/-- All elements below the page's root are like this. -/
def EachHead (K : Element → Prop) (page : Node) : Prop :=
  ∀ p ∈ (Place.top page).inside, ∀ h ∈ p.node.head?, K h

instance (K : Element → Prop) [DecidablePred K] : DecidablePred (EachHead K) :=
  fun page => inferInstanceAs (Decidable (∀ p ∈ (Place.top page).inside, _))

/-- The two ways of recognising a sticker agree about every node below the page's root. -/
def Recognised (s : String) (page : Node) : Prop :=
  ∀ p ∈ (Place.top page).inside, p ∈ stickers s (Place.top page) ↔ isSticker s p.node = true

/-- The two agree about an element exactly if it is unmistakable. -/
theorem isFound_iff_isSticker (hne : s ≠ "") (i : Nat) (h : Element) (cs : List Node) :
    (isFound s (.element i h cs) = true ↔ isSticker s (.element i h cs) = true) ↔
      Unmistakable s h := by
  rw [isFound, isSticker, ← Bool.eq_iff_iff]
  unfold Unmistakable Element.classes
  by_cases hname : h.name = "img"
  · rw [beq_iff_eq.mpr hname, Bool.true_and, Bool.true_and]
    cases h.attr? "class" with
    | none => simp
    | some v => simp [hname, misread_iff hne]
  · rw [beq_eq_false_iff_ne.mpr hname, Bool.false_and, Bool.false_and]
    simp [hname]

/-- **The two agree on a page exactly if every element is unmistakable.** -/
theorem recognised_iff (hne : s ≠ "") : Recognised s page ↔ EachHead (Unmistakable s) page := by
  refine forall₂_congr fun p hp => ?_
  have hmem : p ∈ stickers s (Place.top page) ↔ isFound s p.node = true :=
    List.mem_filter.trans (and_iff_right hp)
  rw [hmem]
  cases hnode : p.node with
  | leaf i k t => simp [isFound, isSticker, Node.head?]
  | element i h cs =>
      rw [isFound_iff_isSticker hne]
      exact ⟨fun h' e he => Option.some.inj he ▸ h', fun h' => h' h rfl⟩

/-- A node that may stand among found stickers without being one. -/
def looksSolo (s : String) : Node → Bool
  | .leaf _ k t => !k.isReading || t.isBlankText
  | n => isLineBreak n || isFound s n

/-- **Where the two agree, a block of found stickers is solo.** -/
theorem Recognised.onlyStickers_eq (h : Recognised s page) {b : Place}
    (hb : b ∈ (Place.top page).all) :
    onlyStickers s b.node = b.node.children.all (looksSolo s) := by
  rw [onlyStickers, Bool.eq_iff_iff, List.all_eq_true, List.all_eq_true]
  refine forall₂_congr fun c hc => ?_
  obtain ⟨q, hq, rfl, habove⟩ := Place.exists_child hb hc
  -- what has an element around it lies below the root
  have hin : q ∈ (Place.top page).inside := by
    obtain rfl | hin := List.mem_cons.mp hq
    · cases habove
    · exact hin
  have hagree : isFound s q.node = isSticker s q.node := by
    rw [Bool.eq_iff_iff, ← h q hin, stickers, List.mem_filter, and_iff_right hin]
  cases hnode : q.node with
  | leaf i k t => exact Iff.rfl
  | element i e cs =>
      rw [hnode] at hagree
      simp only [fitsSolo, looksSolo, hagree]

/-! ## Through a sweep -/

namespace EachHead

variable {K : Element → Prop}

/-- One write. -/
theorem modify {i : Nat} {f : Element → Element} (hK : EachHead K page)
    (hf : ∀ h cs, .element i h cs ∈ page.nodes → K h → K (f h)) : EachHead K (page.modify i f) := by
  intro p hp h hh
  rw [Node.modify_eq_retouch, ← Place.top_retouch, Place.inside_retouch] at hp
  obtain ⟨q, hq, rfl⟩ := List.mem_map.mp hp
  cases hnode : q.node with
  | leaf j k t =>
      rw [Place.node_retouch, hnode] at hh
      cases hh
  | element j e cs =>
      have he : K e := hK q hq e (by rw [hnode]; rfl)
      have hmem : .element j e cs ∈ page.nodes :=
        hnode ▸ Place.node_mem_nodes (List.mem_cons_of_mem (Place.top page) hq)
      rw [Place.node_retouch, hnode] at hh
      obtain rfl : (if j = i then f e else e) = h := Option.some.inj hh
      split
      · next hj => exact hf e cs (hj ▸ hmem) he
      · exact he

/-- The same write in several places. -/
theorem modifyEach {f : Element → Element} (hK : EachHead K page) (hf : ∀ h, K h → K (f h))
    (is : List Nat) : EachHead K (modifyEach f is page) :=
  List.foldlRecOn is _ hK fun _ hp _ _ => hp.modify fun h _ _ => hf h

end EachHead

/-- The writes of a sweep keep this of an element. -/
structure Kept (K : Element → Prop) : Prop where
  add : ∀ name h, K h → K (Marker.add name h)
  remove : ∀ name h, K h → K (Marker.remove name h)
  style : ∀ (sizes : Sizes) alone h, K h → K (sizes.style alone h)

namespace Kept

variable {K : Element → Prop} (hkept : Kept K) (hK : EachHead K page)

include hkept hK

theorem clear (rules : Rules) (block : Nat) (images : List Nat) :
    EachHead K (clear rules block images page) :=
  (hK.modify fun h _ _ => hkept.remove rules.containerClass h).modifyEach (hkept.remove _) images

/-- Whatever the verdict is. -/
theorem mark (rules : Rules) (block : Nat) (images : List Nat) (v : Verdict) :
    EachHead K (mark rules block images v page) := by
  have hmarked : EachHead K
      (if v.solo then page.modify block (Marker.add rules.containerClass) else page) := by
    split
    · exact hK.modify fun h _ _ => hkept.add rules.containerClass h
    · exact hK
  exact hmarked.modifyEach (hkept.add _) _

theorem restyle (sizes : Sizes) (judged : List (Nat × Bool)) :
    EachHead K (restyle sizes judged page) :=
  List.foldlRecOn judged _ hK fun _ hp j _ => hp.modify fun h _ _ => hkept.style sizes j.2 h

theorem sweepBlock (rules : Rules) (sizes : Sizes) (block : Nat) :
    EachHead K (sweepBlock rules sizes block page).1 := by
  unfold Layout.sweepBlock
  split
  · exact hK
  · split
    · dsimp only
      split
      · exact hkept.clear hK rules block []
      · exact hkept.restyle (hkept.mark (hkept.clear hK rules block _) rules block _ _) sizes _
    · exact hK

/-- **What the single writes keep, a sweep keeps.** -/
theorem sweep (rules : Rules) (sizes : Sizes) : EachHead K (sweep rules sizes page).1 := by
  have hblocks := foldl_sweepCounting_keeps (P := EachHead K)
    (fun b _ hp => hkept.sweepBlock hp rules sizes b)
    ((blocks rules.blockTags (Place.top page)).map (·.node.id)) (page, {}) hK
  unfold Layout.sweep
  exact List.foldlRecOn _ _ hblocks fun p hp i _ =>
    (hp.modify fun h _ _ => hkept.remove rules.imageClass h).modify fun h _ _ =>
      hkept.style sizes false h

end Kept

/-- Without a space in the sticker class, several words never make it up. -/
theorem not_misread_words (hspace : ' ' ∉ s.toList) (ws : List String) :
    ¬ Misread s (.words ws) := by
  rintro ⟨hlength, hjoined⟩
  match ws, hlength with
  | a :: b :: r, _ =>
      refine hspace ?_
      rw [← hjoined, String.intercalate_cons_cons]
      simp

/-- **A write leaves no element that is misread** if it found none, as it writes words. -/
theorem kept_unmistakable (hspace : ' ' ∉ s.toList) : Kept (Unmistakable s) := by
  have hwords (h : Element) (ws : List String) : Unmistakable s (h.withAttr "class" (.words ws)) := by
    intro _ v hv
    rw [Element.attr?, Element.withAttr, Pairs.lookup_put_self] at hv
    obtain rfl := Option.some.inj hv
    exact not_misread_words hspace ws
  refine ⟨fun name h hh => ?_, fun name h hh => ?_, fun sizes alone h hh hname v hv => ?_⟩
  · unfold Marker.add
    split
    · exact hh
    · exact hwords h _
  · unfold Marker.remove
    split
    · dsimp only
      split
      · intro _ v hv
        rw [Element.attr?, Element.withoutAttr, Pairs.lookup_erase_self] at hv
        cases hv
      · exact hwords h _
    · exact hh
  · rw [Sizes.style, Element.attr?, Element.withAttr,
      Pairs.lookup_put_other _ _ (by decide)] at hv
    exact hh hname v hv

/-! ## A page without stickers -/

/-- Neither way of recognising sees a sticker in the element. -/
def Bare (rules : Rules) (h : Element) : Prop :=
  ¬ Findable rules.stickerClass h ∧ stickerHead rules h = false

theorem bare_of_name {h : Element} (hname : h.name ≠ "img") : Bare rules h := by
  have hfalse : (h.name == "img") = false := beq_eq_false_iff_ne.mpr hname
  refine ⟨?_, by rw [stickerHead, hfalse, Bool.false_and]⟩
  rw [Findable, isFound, hfalse, Bool.false_and]
  exact Bool.false_ne_true

/-- There is no sticker on a page, for neither of the two. -/
theorem eachHead_bare_iff : EachHead (Bare rules) page ↔ ∀ p ∈ (Place.top page).inside,
    isFound rules.stickerClass p.node = false ∧ isSticker rules.stickerClass p.node = false := by
  refine forall₂_congr fun p _ => ?_
  cases hnode : p.node with
  | leaf i k t => simp [isFound, isSticker, Node.head?]
  | element i e cs =>
      rw [← Bool.not_eq_true (isFound ..)]
      exact ⟨fun h => h e rfl, fun h e' he => Option.some.inj he ▸ h⟩

theorem stickers_of_bare (h : EachHead (Bare rules) page) {b : Place}
    (hb : b ∈ (Place.top page).all) : stickers rules.stickerClass b = [] := by
  rw [stickers, List.filter_eq_nil_iff]
  intro p hp
  rw [(eachHead_bare_iff.mp h p (Place.inside_subset hb hp)).1]
  exact Bool.false_ne_true

theorem recognised_of_bare (h : EachHead (Bare rules) page) :
    Recognised rules.stickerClass page := by
  intro p hp
  rw [stickers_of_bare h List.mem_cons_self, (eachHead_bare_iff.mp h p hp).2]
  simp

/-- On a page without stickers work on a block takes its marker off, and that is all. -/
theorem bare_sweepBlock (himg : "img" ∉ rules.blockTags) (sizes : Sizes) (block : Nat)
    (hn : page.Numbered) (h : EachHead (Bare rules) page) :
    (sweepBlock rules sizes block page).1.Numbered ∧
      EachHead (Bare rules) (sweepBlock rules sizes block page).1 := by
  unfold sweepBlock
  split
  · exact ⟨hn, h⟩
  · next b hfind =>
    obtain ⟨hb, rfl⟩ := Place.mem_of_find? hfind
    split
    · next hisBlock =>
      rw [stickers_of_bare h hb]
      change (page.modify b.node.id (Marker.remove rules.containerClass)).Numbered ∧
        EachHead (Bare rules) (page.modify b.node.id (Marker.remove rules.containerClass))
      refine ⟨?_, h.modify fun e cs hm _ => bare_of_name fun hname => ?_⟩
      · rw [Node.modify_eq_retouch]
        exact hn.retouch_heads _
      · -- a block is no image
        have hblock := numbers_block hn hb hisBlock e cs hm
        rw [Marker.name_remove] at hname
        rw [blockHead, hname, List.contains_iff_mem] at hblock
        exact himg hblock
    · exact ⟨hn, h⟩

/-- **A page without stickers is without stickers after a sweep.** -/
theorem bare_sweep (himg : "img" ∉ rules.blockTags) (sizes : Sizes) (hn : page.Numbered)
    (h : EachHead (Bare rules) page) : EachHead (Bare rules) (sweep rules sizes page).1 := by
  have hdone := (foldl_sweepCounting_keeps (P := fun p => p.Numbered ∧ EachHead (Bare rules) p)
    (fun b _ hp => bare_sweepBlock himg sizes b hp.1 hp.2)
    ((blocks rules.blockTags (Place.top page)).map (·.node.id)) (page, {}) ⟨hn, h⟩).2
  unfold sweep
  dsimp only
  rw [standalone, stickers_of_bare hdone List.mem_cons_self]
  exact hdone

/-! ## Under settings -/

/-- **The two ways of recognising a sticker agree on a page exactly if no image on it is misread**,
before and after a sweep, and then a block of found stickers is solo. If there is no space in the
sticker class, it is enough to look at the page before the sweep; and also if there is one, but no
image has it as one of its words and images are no blocks. -/
theorem sweepUnder_recognised (settings : Settings.Layout) {sizes : Sizes}
    (hsizes : sizesFor settings page = .ok sizes) (hrules : rulesFor settings = .ok rules)
    (hne : rules.stickerClass ≠ "") (hn : page.Numbered) :
    ∃ swept stats, sweepUnder settings page = .ok (swept, stats) ∧
      (∀ q ∈ [page, swept],
        (Recognised rules.stickerClass q ↔ EachHead (Unmistakable rules.stickerClass) q) ∧
        (Recognised rules.stickerClass q → ∀ b ∈ blocks rules.blockTags (Place.top q),
          onlyStickers rules.stickerClass b.node =
            b.node.children.all (looksSolo rules.stickerClass))) ∧
      ((' ' ∉ rules.stickerClass.toList ∨ "img" ∉ rules.blockTags ∧
          ∀ p ∈ (Place.top page).inside, isSticker rules.stickerClass p.node = false) →
        (Recognised rules.stickerClass page ∧ Recognised rules.stickerClass swept ↔
          EachHead (Unmistakable rules.stickerClass) page)) := by
  have hsweep : sweepUnder settings page = .ok (sweep rules sizes page) := by
    rw [sweepUnder, hsizes, hrules]
    rfl
  refine ⟨_, _, hsweep, fun q _ => ⟨recognised_iff hne, fun hq b hb => ?_⟩, fun hcase =>
    ⟨fun h => (recognised_iff hne).mp h.1, fun h => ?_⟩⟩
  · exact hq.onlyStickers_eq (mem_blocks.mp hb).1
  · have hpage := (recognised_iff hne).mpr h
    refine ⟨hpage, ?_⟩
    rcases hcase with hspace | ⟨himg, hnone⟩
    · exact (recognised_iff hne).mpr ((kept_unmistakable hspace).sweep h rules sizes)
    · -- nothing is a sticker, so nothing is found either
      refine recognised_of_bare (bare_sweep himg sizes hn (eachHead_bare_iff.mpr fun p hp => ?_))
      have hnot := (hpage p hp).not.mpr (by rw [hnone p hp]; exact Bool.false_ne_true)
      rw [stickers, List.mem_filter, and_iff_right hp, Bool.not_eq_true] at hnot
      exact ⟨hnot, hnone p hp⟩

/-- A page with an image whose class is one text, and with one in a block that holds nothing else. -/
def textClassPage : Node :=
  .element 0 ⟨rootName, []⟩
    [.element 1 ⟨"p", []⟩ [.element 2 ⟨"img", [("class", .text "sticker-emoji")]⟩ []],
      .element 3 ⟨"img", [("class", .words ["sticker-emoji", "sticker"])]⟩ []]

/-- Under the usual settings the two agree about it, before and after. -/
theorem sweepUnder_recognised_textClassPage :
    ∃ sizes, sizesFor {} textClassPage = .ok sizes ∧ rulesFor {} = .ok {} ∧
      ({} : Rules).stickerClass ≠ "" ∧ textClassPage.Numbered ∧
      ∃ swept stats, sweepUnder {} textClassPage = .ok (swept, stats) ∧
        Recognised "sticker-emoji" textClassPage ∧ Recognised "sticker-emoji" swept := by
  obtain ⟨sizes, hsizes⟩ := describes_default.sizesFor_eq textClassPage
  have hrules : rulesFor {} = .ok {} := describes_default.rulesFor_eq
  have hne : ({} : Rules).stickerClass ≠ "" := by decide
  have hn : textClassPage.Numbered := by decide
  obtain ⟨swept, stats, hsweep, -, hboth⟩ := sweepUnder_recognised {} hsizes hrules hne hn
  exact ⟨sizes, hsizes, hrules, hne, hn, swept, stats, hsweep,
    (hboth (.inl (by decide))).mpr (by decide +kernel)⟩

/-- A page with an image alone in its block, of two classes. -/
def twoClassesPage : Node :=
  .element 0 ⟨rootName, []⟩
    [.element 1 ⟨"p", []⟩ [.element 2 ⟨"img", [("class", .words ["sticker", "emoji"])]⟩ []]]

/-- If the sticker class is these two words, the search finds the image and the single look denies
that it is a sticker, before and after a sweep; so the block is not solo, though nothing but a found
sticker is in it. -/
theorem not_recognised_twoClassesPage :
    let settings : Settings.Layout := { stickerClass := .text "sticker emoji" }
    ¬ Recognised "sticker emoji" twoClassesPage ∧
      (∃ swept stats, sweepUnder settings twoClassesPage = .ok (swept, stats) ∧
        ¬ Recognised "sticker emoji" swept) ∧
      ∃ b ∈ blocks ["p"] (Place.top twoClassesPage),
        b.node.children.all (looksSolo "sticker emoji") = true ∧
          onlyStickers "sticker emoji" b.node = false := by
  intro settings
  have hne : "sticker emoji" ≠ "" := by decide
  refine ⟨(recognised_iff hne).not.mpr (by decide +kernel), ?_, by decide +kernel⟩
  have hswept : (sweepUnder settings twoClassesPage).toOption.any
      (fun r => !decide (EachHead (Unmistakable "sticker emoji") r.1)) = true := by
    decide +kernel
  cases hsweep : sweepUnder settings twoClassesPage with
  | error f =>
      rw [hsweep] at hswept
      cases hswept
  | ok r =>
      rw [hsweep] at hswept
      have hnot : (!decide (EachHead (Unmistakable "sticker emoji") r.1)) = true := hswept
      exact ⟨r.1, r.2, rfl, (recognised_iff hne).not.mpr (by simpa using hnot)⟩

end StickerPages.Layout
