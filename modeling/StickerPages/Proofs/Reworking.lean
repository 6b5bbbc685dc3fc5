import StickerPages.Proofs.Repeating
import StickerPages.Proofs.Sparing

/-!
# Work on one block of a swept page

A sweep works on every block; work on a single block does the same to that block alone, with the
sizes that the page asks for at that time. On a swept page it should find nothing to do, and three
things stand in its way.

**Blocks in blocks.** A block judges all stickers below it, those in a block of its own included.
A sweep gives these their innermost block's verdict, because it comes to the inner block later; work
on the outer block alone has the last word itself. So a sticker keeps its marker and its size if the
block is its innermost one, and otherwise if the verdicts agree (`Reworks`).

**Sizes of the page.** They are read from style sheets. If no block and no sticker lies in a sheet,
a sweep does not write there, and the page asks for the same sizes before and after
(`ofPage_swept`).

**Open quotes.** A style is the same when it is written again if neither it nor the sizes leave
anything open (`Closed`, `Shut`).
-/

namespace StickerPages

namespace Style

open Markup

/-! ## Sizes that leave nothing open -/

/-- None of the declarations that the sizes turn into leaves anything open. -/
def Sizes.Shut (sizes : Sizes) : Prop :=
  ∀ solo, ∀ d ∈ sizes.forced solo, Whole d

/-- A size such as a page gives: not empty, and no blank at either end. -/
structure IsSize (size : String) : Prop where
  trimmed : Text.Trimmed size.toList
  given : size.toList ≠ []

theorem isSize_trimBlanks {s : String} (h : s.trimBlanks.isEmpty = false) :
    IsSize s.trimBlanks where
  trimmed := by
    rw [String.trimBlanks, String.toList_ofList]
    exact Text.trimmed_trim _
  given := by simpa using h

theorem isSize_firstSize {default : String} (hd : IsSize default) (override : String)
    (property : Option String) : IsSize (firstSize override property default) := by
  unfold firstSize
  dsimp only
  split
  · next h => exact isSize_trimBlanks (by simpa using h)
  · split
    · next h => exact isSize_trimBlanks (by simpa using h)
    · exact hd

/-- A text that can be seen to have no blank at either end. -/
theorem trimmed_of_ends {s : String} (hhead : s.toList.head?.any Text.isBlank = false)
    (hlast : s.toList.getLast?.any Text.isBlank = false) : Text.Trimmed s.toList where
  head c hc := by rwa [hc] at hhead
  last c hc := by rwa [hc] at hlast

theorem IsSize.trimmed_important {size : String} (hs : IsSize size) :
    Text.Trimmed (size ++ " !important").toList where
  head c hc := by
    rw [String.toList_append, List.head?_append_of_ne_nil _ hs.given] at hc
    exact hs.trimmed.head c hc
  last c hc := by
    rw [String.toList_append, List.getLast?_append_of_ne_nil _ (by decide)] at hc
    obtain rfl : c = 't' := (Option.some.inj hc).symm
    decide

theorem readable_forcedName {name value : String} (hname : name ∈ forcedNames)
    (hvalue : Text.Trimmed value.toList) : Readable (name, value) := by
  have hnames : ∀ name ∈ forcedNames, ':' ∉ name.toList ∧
      name.toList.head?.any Text.isBlank = false ∧ name.toList.getLast?.any Text.isBlank = false ∧
      name.toList ≠ [] ∧ nameKey name.toList = name := by decide +kernel
  obtain ⟨hcolon, hhead, hlast, hne, hsmall⟩ := hnames name hname
  exact ⟨hcolon, trimmed_of_ends hhead hlast, hne, hsmall, hvalue⟩

/-- What sizes turn into is read back as it is written. -/
theorem readable_forced {sizes : Sizes} (hsolo : IsSize sizes.solo)
    (hinline : IsSize sizes.inline) (alone : Bool) :
    ∀ d ∈ sizes.forced alone, Readable d := by
  have hsize : IsSize (if alone then sizes.solo else sizes.inline) := by
    split
    · exact hsolo
    · exact hinline
  intro d hd
  simp only [Sizes.forced, List.mem_cons, List.not_mem_nil, or_false] at hd
  rcases hd with rfl | rfl | rfl | rfl | rfl | rfl
  · exact readable_forcedName (by decide) hsize.trimmed_important
  · exact readable_forcedName (by decide) hsize.trimmed_important
  all_goals exact readable_forcedName (by decide) (trimmed_of_ends (by decide) (by decide))

theorem isSize_ofPage (page : Node) (solo inline : String) :
    IsSize (Sizes.ofPage page solo inline).solo ∧
      IsSize (Sizes.ofPage page solo inline).inline := by
  have hsolo : IsSize Sizes.default.solo := ⟨trimmed_of_ends (by decide) (by decide), by decide⟩
  have hinline : IsSize Sizes.default.inline := ⟨trimmed_of_ends (by decide) (by decide), by decide⟩
  unfold Sizes.ofPage
  dsimp only
  exact ⟨isSize_firstSize hsolo _ _, isSize_firstSize hinline _ _⟩

/-- The sizes of a page are plain if they leave nothing open. -/
theorem plain_ofPage {page : Node} {solo inline : String}
    (hshut : (Sizes.ofPage page solo inline).Shut) : (Sizes.ofPage page solo inline).Plain := by
  obtain ⟨hsolo, hinline⟩ := isSize_ofPage page solo inline
  intro alone d hd
  exact ⟨(declaration?_written (readable_forced hsolo hinline alone d hd)).1, hshut alone d hd⟩

end Style

namespace Markup.Node

theorem nodes_subset {page n : Node} (hn : n ∈ page.nodes) : n.nodes ⊆ page.nodes := by
  obtain ⟨p, hp, rfl⟩ := Place.exists_of_mem_nodes hn
  rw [← Place.all_nodes]
  intro m hm
  obtain ⟨q, hq, rfl⟩ := List.mem_map.mp hm
  exact Place.node_mem_nodes ((Place.all_sublist (r := Place.top page) hp).subset hq)

theorem descendants_retouch (r : Retouch) (n : Node) :
    (n.retouch r).descendants = n.descendants.map (retouch r) := by
  have hnodes := nodes_retouch r n
  rw [nodes_eq, nodes_eq, List.map_cons] at hnodes
  exact List.tail_eq_of_cons_eq hnodes

end Markup.Node

namespace Layout

open Markup Style

variable {rules : Rules} {sizes : Sizes} {page : Node}

/-! ## The sizes of a swept page -/

/-- No block and no sticker lies in a style sheet. -/
def SheetsApart (rules : Rules) (page : Node) : Prop :=
  ∀ n ∈ page.nodes, n.isNamed "style" = true → ∀ m ∈ n.descendants, ∀ h ∈ m.head?,
    blockHead rules h = false ∧ stickerHead rules h = false

/-- A sweep writes nothing into such a sheet. -/
theorem children_sheet {g : Nat → Element → Element} (hsheets : SheetsApart rules page)
    (hg : ∀ i h cs, .element i h cs ∈ page.nodes → Spared rules h (g i h)) {n : Node}
    (hn : n ∈ page.nodes) (hstyle : n.isNamed "style" = true) :
    (n.retouch (.heads g)).children = n.children := by
  have hidle (i : Nat) (h : Element) (cs : List Node) (hm : .element i h cs ∈ n.descendants) :
      g i h = h := by
    have hpage : .element i h cs ∈ page.nodes := by
      refine Node.nodes_subset hn ?_
      rw [Node.nodes_eq]
      exact List.mem_cons_of_mem _ hm
    obtain ⟨hblock, hsticker⟩ := hsheets n hn hstyle _ hm h rfl
    exact (hg i h cs hpage).whole hblock hsticker
  rw [Node.children_retouch]
  refine (List.map_congr_left fun c hc => ?_).trans (List.map_id _)
  have hnothing : c.retouch (.heads g) = c.retouch (.heads fun _ h => h) := by
    refine Node.retouch_congr c (fun i h cs hm => hidle i h cs ?_) fun _ _ _ _ => rfl
    rw [Node.descendants, Node.nodesOfAll_eq]
    exact List.mem_flatMap.mpr ⟨c, hc, hm⟩
  rw [hnothing, Node.retouch_nothing]
  rfl

/-- **The page asks for the same sizes before and after a sweep.** -/
theorem ofPage_swept {swept : Node} (hsheets : SheetsApart rules page)
    (hswept : Spares rules page swept) (solo inline : String) :
    Sizes.ofPage swept solo inline = Sizes.ofPage page solo inline := by
  obtain ⟨g, rfl, hg⟩ := hswept
  have hbelowPage {n : Node} (hn : n ∈ page.descendants) : n ∈ page.nodes := by
    rw [Node.nodes_eq]
    exact List.mem_cons_of_mem _ hn
  have hnamed (name : String) {n : Node} (hn : n ∈ page.descendants) :
      (n.retouch (.heads g)).isNamed name = n.isNamed name := by
    cases n with
    | leaf i k s => rfl
    | element i h cs =>
        show ((g i h).name == name) = (h.name == name)
        rw [(hg i h cs (hbelowPage hn)).name]
  have hsheet : sheetDeclarations (page.retouch (.heads g)) = sheetDeclarations page := by
    unfold sheetDeclarations
    have hsheets' : (page.retouch (.heads g)).descendants.filter (fun n => n.isNamed "style") =
        (page.descendants.filter fun n => n.isNamed "style").map (Node.retouch (.heads g)) := by
      rw [Node.descendants_retouch, List.filter_map]
      congr 1
      exact List.filter_congr fun n hn => hnamed "style" hn
    rw [hsheets', List.flatMap_map]
    refine List.flatMap_congr fun n hn => ?_
    obtain ⟨hbelow, hstyle⟩ := List.mem_filter.mp hn
    have htext : sheetText (n.retouch (.heads g)) = sheetText n := by
      rw [sheetText, children_sheet hsheets hg (hbelowPage hbelow) hstyle, sheetText]
    rw [htext]
  have hroot : rootDeclarations (page.retouch (.heads g)) = rootDeclarations page := by
    have hfirst : (page.retouch (.heads g)).firstNamed? "html" =
        (page.firstNamed? "html").map (Node.retouch (.heads g)) := by
      rw [Node.firstNamed?, Node.descendants_retouch, List.find?_map, Node.firstNamed?]
      congr 1
      exact List.find?_congr fun n hn => hnamed "html" hn
    rw [rootDeclarations, hfirst, rootDeclarations]
    cases hhtml : page.firstNamed? "html" with
    | none => rfl
    | some n =>
        cases n with
        | leaf i k s => rfl
        | element i h cs =>
            have hroot := hbelowPage (List.mem_of_find?_eq_some hhtml)
            have hhtmlName : h.name = "html" := by simpa [Node.isNamed] using List.find?_some hhtml
            have hstyle := (hg i h cs hroot).style (by simp [stickerHead, hhtmlName])
            have hhead : ((Node.element i h cs).retouch (.heads g)).head? = some (g i h) := rfl
            rw [Option.map_some, Option.bind_some, Option.bind_some, hhead, Node.head?]
            dsimp only
            rw [hstyle]
  have hproperties : customProperties (page.retouch (.heads g)) = customProperties page := by
    rw [customProperties, hsheet, hroot, customProperties]
  rw [Sizes.ofPage, hproperties, Sizes.ofPage]

/-! ## A sticker painted again -/

/-- Nothing changed that a sweep could have written. -/
def SameLook (h e : Element) : Prop :=
  e.classes = h.classes ∧ e.attr? "style" = h.attr? "style"

theorem attr?_put {name a : String} (ha : a ≠ "class") (called : Bool) (h : Element) :
    (Marker.put name called h).attr? a = h.attr? a := by
  have hadd (e : Element) : (Marker.add name e).attr? a = e.attr? a := by
    unfold Marker.add
    split
    · rfl
    · exact Pairs.lookup_put_other _ _ ha
  have hremove (e : Element) : (Marker.remove name e).attr? a = e.attr? a := by
    unfold Marker.remove
    split
    · dsimp only
      split
      · exact Pairs.lookup_erase_other ha _
      · exact Pairs.lookup_put_other _ _ ha
    · rfl
  unfold Marker.put
  split
  · rw [hadd, hremove]
  · exact hremove h

theorem classes_put_put (name : String) (called : Bool) (h : Element) :
    (Marker.put name called (Marker.put name called h)).classes =
      (Marker.put name called h).classes := by
  rw [Marker.classes_put, Marker.classes_put]
  cases called <;> simp

theorem style_paint (alone : Bool) (h : Element) :
    (paint rules sizes alone h).attr? "style" =
      some (.text (sizes.restyle alone (styleText h))) := by
  have hbefore : styleText (Marker.put rules.imageClass alone h) = styleText h := by
    rw [styleText, attr?_put (by decide), styleText]
  rw [paint, style_eq, hbefore, Element.attr?, Element.withAttr, Pairs.lookup_put_self]

theorem styleText_paint (alone : Bool) (h : Element) :
    styleText (paint rules sizes alone h) = sizes.restyle alone (styleText h) := by
  rw [styleText, style_paint]
  rfl

theorem closed_paints (hplain : sizes.Plain) {h : Element} (hclosed : Closed (styleText h))
    (vs : List Bool) : Closed (styleText (vs.foldr (paint rules sizes) h)) := by
  induction vs with
  | nil => exact hclosed
  | cons v r ih =>
      rw [List.foldr_cons, styleText_paint]
      exact ih.restyle hplain v

/-- **Painted by the same verdict a sticker looks the same.** -/
theorem sameLook_paint (hplain : sizes.Plain) {h : Element} (hclosed : Closed (styleText h))
    (alone : Bool) :
    SameLook (paint rules sizes alone h)
      (paint rules sizes alone (paint rules sizes alone h)) := by
  have hclasses (e : Element) : (paint rules sizes alone e).classes =
      (Marker.put rules.imageClass alone e).classes := by
    rw [paint, Sizes.style, classes_withAttr_other _ _ (by decide)]
  refine ⟨?_, ?_⟩
  · rw [hclasses, Marker.classes_put, hclasses, Marker.classes_put]
    cases alone <;> simp
  · rw [style_paint, styleText_paint, restyle_restyle hplain hclosed, ← style_paint]

/-- What a sweep makes of a sticker is its last painting, and that was of a style that leaves
nothing open. -/
theorem painted_closed (hplain : sizes.Plain) (p : Place) {h : Element}
    (hclosed : Closed (styleText h)) :
    ∃ e, Closed (styleText e) ∧
      painted rules sizes p h = paint rules sizes (standsAlone rules p) e := by
  have hlast : ∃ r, verdicts rules p = standsAlone rules p :: r := by
    rw [standsAlone_eq, verdicts]
    cases blocksAround rules p with
    | nil => exact ⟨[], rfl⟩
    | cons b r => exact ⟨r.map fun b => aloneIn rules b p, rfl⟩
  obtain ⟨r, hr⟩ := hlast
  rw [painted_eq_foldr, hr, List.foldr_cons]
  exact ⟨_, closed_paints hplain hclosed r, rfl⟩

/-! ## One block of a swept page -/

/-- The styles of all stickers leave nothing open. -/
def ClosedStyles (rules : Rules) (page : Node) : Prop :=
  ∀ p ∈ stickers rules.stickerClass (Place.top page), ∀ h ∈ p.node.head?, Closed (styleText h)

/-- Work on the block `b` of a swept page: what it makes of the elements, and its verdict. -/
structure Reworks (rules : Rules) (sizes : Sizes) (swept : Node) (b : Place)
    (g : Nat → Element → Element) (v : Option Verdict) : Prop where
  /-- There is a verdict on every sticker of the block; without stickers there is none. -/
  verdict : v.map (·.images) = if (stickers rules.stickerClass b).isEmpty then none
    else some ((stickers rules.stickerClass b).map (aloneIn rules b.node))
  /-- Of the innermost block the verdict is that of the sweep. -/
  innermost : ∀ q ∈ stickers rules.stickerClass b,
    (blocksAround rules q).head? = some b.node →
      aloneIn rules b.node q = carries rules.imageClass q.node
  /-- A sticker about which the verdict is that of the sweep looks the same. -/
  agreed : ∀ q ∈ stickers rules.stickerClass b, ∀ h, q.node.head? = some h →
    aloneIn rules b.node q = carries rules.imageClass q.node → SameLook h (g q.node.id h)
  /-- Any other sticker of the block gets the block's verdict. -/
  overruled : ∀ q ∈ stickers rules.stickerClass b, ∀ h, q.node.head? = some h →
    g q.node.id h = paint rules sizes (aloneIn rules b.node q) h
  /-- The block itself, and all that is not a sticker of it, looks the same. -/
  elsewhere : ∀ p ∈ (Place.top swept).all, p ∉ stickers rules.stickerClass b →
    ∀ h, p.node.head? = some h → SameLook h (g p.node.id h)

section

variable (hs : rules.Sound) (hn : page.Numbered)

include hs hn

/-- A sticker of the swept page comes from one of the page. -/
theorem head_swept_sticker (hplain : sizes.Plain) (hstyles : ClosedStyles rules page) {q : Place}
    (hq : q ∈ stickers rules.stickerClass
      (Place.top (page.retouch (.heads (sweepEdit rules sizes page)))))
    {h : Element} (hh : q.node.head? = some h) :
    ∃ e, Closed (styleText e) ∧ h = paint rules sizes (standsAlone rules q) e := by
  have hg := (sweep_eq sizes hs hn).2
  rw [← Place.top_retouch, hg.stickers_retouch List.mem_cons_self] at hq
  obtain ⟨p, hp, rfl⟩ := List.mem_map.mp hq
  obtain ⟨h₀, hh₀⟩ := exists_head_of_isFound (mem_stickers.mp hp).2
  rw [Place.node_retouch, head?_retouch hh₀, sweepEdit_sticker hs hn hp] at hh
  obtain rfl := Option.some.inj hh
  rw [hg.standsAlone_retouch]
  exact painted_closed hplain p (hstyles p hp h₀ hh₀)

/-- A block of the swept page has its marker already. -/
theorem sameLook_block {b : Place}
    (hb : b ∈ blocks rules.blockTags
      (Place.top (page.retouch (.heads (sweepEdit rules sizes page)))))
    {h : Element} (hh : b.node.head? = some h) :
    SameLook h (Marker.put rules.containerClass (isSolo rules b) h) := by
  have hg := (sweep_eq sizes hs hn).2
  rw [hg.blocks_retouch] at hb
  obtain ⟨p, hp, rfl⟩ := List.mem_map.mp hb
  obtain ⟨h₀, hh₀⟩ := exists_head_of_isBlock (mem_blocks.mp hp).2
  rw [Place.node_retouch, head?_retouch hh₀, sweepEdit_block hs hn hp] at hh
  obtain rfl := Option.some.inj hh
  rw [hg.isSolo_retouch (mem_blocks.mp hp).1]
  exact ⟨classes_put_put .., attr?_put (by decide) _ _⟩

/-- **Work on one block of a swept page.** -/
theorem reworks_sweepBlock (hplain : sizes.Plain) (hstyles : ClosedStyles rules page) {b : Place}
    (hb : b ∈ blocks rules.blockTags (Place.top (sweep rules sizes page).1)) :
    ∃ g v, sweepBlock rules sizes b.node.id (sweep rules sizes page).1 =
        ((sweep rules sizes page).1.retouch (.heads g), v) ∧
      Reworks rules sizes (sweep rules sizes page).1 b g v := by
  have hsettled := (sweep_swept sizes hs.distinct hn).settled
  rw [(sweep_eq sizes hs hn).1] at hb hsettled ⊢
  dsimp only at hb hsettled ⊢
  have hn' := hn.retouch_heads (sweepEdit rules sizes page)
  obtain ⟨hball, hblock⟩ := mem_blocks.mp hb
  have hmem {q : Place} (hq : q ∈ stickers rules.stickerClass b) :
      q ∈ stickers rules.stickerClass
        (Place.top (page.retouch (.heads (sweepEdit rules sizes page)))) :=
    mem_stickers.mpr ⟨Place.inside_subset hball (mem_stickers.mp hq).1, (mem_stickers.mp hq).2⟩
  refine ⟨_, _, sweepBlock_eq sizes hs hn' hb, ?_, ?_, ?_, ?_, ?_⟩
  · cases (stickers rules.stickerClass b).isEmpty <;> rfl
  · intro q hq hinner
    have hcarries := hsettled.images q (hmem hq)
    rw [standsAlone_eq, hinner] at hcarries
    exact hcarries.symm
  · -- the sweep painted it last by the verdict that it now gets again
    intro q hq h hh hagree
    obtain ⟨e, hclosed, rfl⟩ := head_swept_sticker hs hn hplain hstyles (hmem hq) hh
    rw [blockEdit_sticker hn' hball hq, hagree, hsettled.images q (hmem hq)]
    exact sameLook_paint hplain hclosed _
  · exact fun q hq h _ => blockEdit_sticker hn' hball hq h
  · intro p hp hno h hh
    unfold blockEdit touch
    by_cases hpb : p.node.id = b.node.id
    · rw [if_pos hpb]
      have hsame : p = b := Place.eq_of_id_eq (r := Place.top _) hn' hp hball hpb
      exact sameLook_block hs hn hb (hsame ▸ hh)
    · rw [if_neg hpb, Place.find?_of_not_mem (r := Place.top _) hn' (stickers_subset_all hball) hp
        hno]
      exact ⟨rfl, rfl⟩

end

/-! ## Under settings -/

/-- **Work on one block of a swept page changes no look and agrees with the sweep**, but for
stickers in a block inside the block. -/
theorem sweepUnder_reworks {tags : Value} {names : List String} (htags : names? tags = some names)
    (himg : "img" ∉ names) (hn : page.Numbered)
    (hstyles : ClosedStyles { blockTags := names } page)
    (hshut : (Sizes.ofPage page "" "").Shut)
    (hsheets : SheetsApart { blockTags := names } page) :
    let settings : Settings.Layout := { blockTags := tags }
    let rules : Rules := { blockTags := names }
    ∃ sizes swept stats, sizesFor settings page = .ok sizes ∧
      sweepUnder settings page = .ok (swept, stats) ∧
      sizesFor settings swept = .ok sizes ∧ rulesFor settings = .ok rules ∧
      ∀ b ∈ blocks names (Place.top swept), ∃ g v,
        sweepBlock rules sizes b.node.id swept = (swept.retouch (.heads g), v) ∧
          Reworks rules sizes swept b g v := by
  intro settings rules
  have hdefault := Rules.sound_default
  have hd : Describes settings rules := ⟨rfl, rfl, rfl, htags, ⟨_, rfl⟩, ⟨_, rfl⟩⟩
  have hspares : Spares rules page (sweep rules (Sizes.ofPage page "" "") page).1 :=
    spares_sweep _ ⟨hdefault.stickerWord, hdefault.sticker_ne_container,
      hdefault.sticker_ne_image⟩ hn
  have hsizesFor (page : Node) : sizesFor settings page = .ok (Sizes.ofPage page "" "") := rfl
  obtain ⟨sizes, hsizes, hsweep⟩ := hd.sweepUnder_eq page
  rw [hsizesFor] at hsizes
  obtain rfl := Except.ok.inj hsizes
  refine ⟨_, (sweep rules (Sizes.ofPage page "" "") page).1, _, hsizesFor page, hsweep, ?_,
    hd.rulesFor_eq, fun b hb => ?_⟩
  · rw [hsizesFor, ofPage_swept hsheets hspares]
  · -- there is a block, so there are names of blocks
    have hnames : names ≠ [] := by
      intro hnil
      have hblock : isBlock names b.node = true := (List.mem_filter.mp hb).2
      rw [hnil] at hblock
      cases hnode : b.node <;> rw [hnode] at hblock <;> cases hblock
    have hs : rules.Sound :=
      ⟨hdefault.stickerWord, hdefault.containerWord, hdefault.imageWord,
        hdefault.sticker_ne_container, hdefault.sticker_ne_image, hdefault.container_ne_image,
        hnames, himg⟩
    exact reworks_sweepBlock hs hn (plain_ofPage hshut) hstyles hb

/-- A page with a size of its own and a block inside a block. -/
def boxedPage : Node :=
  .element 0 ⟨rootName, []⟩
    [.element 1 ⟨"style", []⟩ [.leaf 2 .stylesheet ":root\x7b--sticker-solo-max-width: 9em\x7d"],
     .element 3 ⟨"p", []⟩
      [.leaf 4 .plain "so",
       .element 5 ⟨"img", [("class", .words ["sticker-emoji"]), ("style", .text "color: red")]⟩ [],
       .element 6 ⟨"p", []⟩ [.element 7 ⟨"img", [("class", .words ["sticker-emoji"])]⟩ []]]]

theorem sweepUnder_reworks_boxedPage :
    names? (.list [.text "p"]) = some ["p"] ∧ "img" ∉ ["p"] ∧ boxedPage.Numbered ∧
      ClosedStyles {} boxedPage ∧ (Sizes.ofPage boxedPage "" "").Shut ∧ SheetsApart {} boxedPage ∧
      ∃ sizes swept stats, sizesFor {} boxedPage = .ok sizes ∧
        sweepUnder {} boxedPage = .ok (swept, stats) ∧
        sizesFor {} swept = .ok sizes ∧ rulesFor {} = .ok {} ∧
        ∀ b ∈ blocks ["p"] (Place.top swept), ∃ g v,
          sweepBlock {} sizes b.node.id swept = (swept.retouch (.heads g), v) ∧
            Reworks {} sizes swept b g v := by
  have htags : names? (.list [.text "p"]) = some ["p"] := rfl
  have himg : "img" ∉ ["p"] := by decide
  have hn : boxedPage.Numbered := by decide
  have hstyles : ClosedStyles {} boxedPage := by
    unfold ClosedStyles Closed
    decide +kernel
  have hshut : (Sizes.ofPage boxedPage "" "").Shut := by
    unfold Sizes.Shut
    decide +kernel
  have hsheets : SheetsApart {} boxedPage := by
    unfold SheetsApart
    decide +kernel
  exact ⟨htags, himg, hn, hstyles, hshut, hsheets,
    sweepUnder_reworks htags himg hn hstyles hshut hsheets⟩

/-- What a sweep could have written on the elements of a page. -/
def looks (page : Node) : List (List String × Option AttrValue) :=
  (page.nodes.filterMap Node.head?).map fun h => (h.classes, h.attr? "style")

/-- Work on this block of the swept page changes a look. -/
def Disturbs (block : Nat) (page : Node) : Prop :=
  ∃ swept stats sizes, sweepUnder {} page = .ok (swept, stats) ∧ sizesFor {} swept = .ok sizes ∧
    looks (sweepBlock {} sizes block swept).1 ≠ looks swept

/-- A sticker in a block inside a block. -/
def boxedSticker : Node :=
  .element 0 ⟨rootName, []⟩
    [.element 1 ⟨"p", []⟩
      [.leaf 2 .plain "so",
       .element 3 ⟨"p", []⟩ [.element 4 ⟨"img", [("class", .words ["sticker-emoji"])]⟩ []]]]

/-- A block in a style sheet, and so part of the size that the sheet gives. -/
def sheetedBlock : Node :=
  .element 0 ⟨rootName, []⟩
    [.element 1 ⟨"style", []⟩
      [.leaf 2 .stylesheet ":root\x7b--sticker-solo-max-width: ",
       .element 3 ⟨"p", [("class", .words ["sticker-solo-container"])]⟩ [],
       .leaf 4 .stylesheet "\x7d"],
     .element 5 ⟨"p", []⟩ [.element 6 ⟨"img", [("class", .words ["sticker-emoji"])]⟩ []]]

/-- A size with a quote that is not closed. -/
def openSize : Node :=
  .element 0 ⟨rootName, []⟩
    [.element 1 ⟨"style", []⟩ [.leaf 2 .stylesheet ":root\x7b--sticker-solo-max-width: 'x\x7d"],
     .element 3 ⟨"p", []⟩ [.element 4 ⟨"img", [("class", .words ["sticker-emoji"])]⟩ []]]

/-- Each of the three things that stand in the way does. -/
theorem disturbs_looks :
    (ClosedStyles {} boxedSticker ∧ Disturbs 1 boxedSticker) ∧
      (ClosedStyles {} sheetedBlock ∧ Disturbs 5 sheetedBlock) ∧
        (ClosedStyles {} openSize ∧ Disturbs 3 openSize) := by
  have hdisturbs {block : Nat} {page : Node} (before after : Sizes)
      (hbefore : Sizes.ofPage page "" "" = before)
      (hafter : Sizes.ofPage (sweep {} before page).1 "" "" = after)
      (hlooks : looks (sweepBlock {} after block (sweep {} before page).1).1 ≠
        looks (sweep {} before page).1) : Disturbs block page := by
    refine ⟨(sweep {} before page).1, (sweep {} before page).2, after, ?_, ?_, hlooks⟩
    · rw [← hbefore]
      rfl
    · rw [← hafter]
      rfl
  unfold ClosedStyles Closed
  refine ⟨⟨by decide +kernel, ?_⟩, ⟨by decide +kernel, ?_⟩, ⟨by decide +kernel, ?_⟩⟩
  · have hswept : (looks (sweep {} .default boxedSticker).1).map (·.1) =
        [[], [], ["sticker-solo-container"], ["sticker-emoji", "sticker-solo-image"]] := by
      decide +kernel
    have hagain :
        (looks (sweepBlock {} .default 1 (sweep {} .default boxedSticker).1).1).map (·.1) =
          [[], [], ["sticker-solo-container"], ["sticker-emoji"]] := by
      decide +kernel
    refine hdisturbs .default .default (by decide +kernel) (by decide +kernel) fun hsame => ?_
    rw [hsame, hswept] at hagain
    exact absurd hagain (by decide)
  · exact hdisturbs ⟨"<p class=\"sticker-solo-container\"></p>", "64px"⟩ ⟨"<p></p>", "64px"⟩
      (by decide +kernel) (by decide +kernel) (by decide +kernel)
  · exact hdisturbs ⟨"'x", "64px"⟩ ⟨"'x", "64px"⟩ (by decide +kernel) (by decide +kernel)
      (by decide +kernel)

end Layout

end StickerPages
