import Mathlib.Logic.Relator
import StickerPages.Layout.Wish
import StickerPages.Proofs.Recutting

/-!
# A sweep goes the same way on both pages

Two pages whose texts are cut differently (`Proofs/Recutting.lean`) are swept side by side. Whatever
a sweep does to an element of the one, it does to the element of the other that answers to it: it
finds both or neither, judges both alike, and puts the same markers on both. So they stay such
pages, and the counts are the same.

Only the styles may part, as the sizes are read from the pages themselves. `ButStyle` is what
elements agree in throughout: all attributes but the style. It takes a relation of numbers along,
which says what answers to what and must be one to one.
-/

namespace StickerPages.Layout

open Markup Style

variable {R : Kinship} {C : Nat → Nat → Prop}

/-! ## One change on both sides -/

/-- Changes of heads that keep the kinship leave recut pages recut. -/
theorem Recut.retouch {g g' : Nat → Element → Element}
    (hg : ∀ i h j e, R i h j e → R i (g i h) j (g' j e)) {ns ms : List Node} (hr : Recut R ns ms) :
    Recut R (ns.map (Node.retouch (.heads g))) (ms.map (Node.retouch (.heads g'))) := by
  induction hr with
  | nil => exact .nil
  | @texts ts us ns ms one other same _ ih =>
      have hsame {ts : List Node} (h : ∀ t ∈ ts, isText t = true) (g : Nat → Element → Element) :
          ts.map (Node.retouch (.heads g)) = ts := by
        refine (List.map_congr_left fun t ht => ?_).trans (List.map_id _)
        cases t with
        | leaf i k s => rfl
        | element i e cs => cases h _ ht
      rw [List.map_append, List.map_append, hsame one, hsame other]
      exact .texts one other same ih
  | note kind _ ih => exact .note kind ih
  | element kin _ _ ihbelow ih =>
      rw [List.map_cons, List.map_cons, Node.retouch, Node.retouch, Node.retouchAll_eq,
        Node.retouchAll_eq]
      exact .element (hg _ _ _ _ kin) ihbelow ih

theorem Twin.retouch {g g' : Nat → Element → Element}
    (hg : ∀ i h j e, R i h j e → R i (g i h) j (g' j e)) {n m : Node} (ht : Twin R n m) :
    Twin R (n.retouch (.heads g)) (m.retouch (.heads g')) := by
  cases ht with
  | intro kin below =>
      rw [Node.retouch, Node.retouch, Node.retouchAll_eq, Node.retouchAll_eq]
      exact .intro (hg _ _ _ _ kin) (below.retouch hg)

/-! ## Elements that agree but for their style -/

/-- The numbers answer to each other, and the attributes other than the style are the same. -/
def ButStyle (C : Nat → Nat → Prop) : Kinship :=
  fun i h j e => C i j ∧ unstyled h = unstyled e

theorem attr?_class_unstyled (h : Element) : (unstyled h).attr? "class" = h.attr? "class" :=
  Pairs.lookup_erase_other (by decide) _

theorem findable_unstyled_iff (stickerClass : String) (h : Element) :
    Findable stickerClass (unstyled h) ↔ Findable stickerClass h := by
  simp only [Findable, isFound]
  rw [attr?_class_unstyled]
  rfl

theorem legible_butStyle (C : Nat → Nat → Prop) (stickerClass : String) :
    Legible (ButStyle C) stickerClass where
  name i h j e hkin := by
    have hsame := congrArg Element.name hkin.2
    exact hsame
  sticker i h j e hkin := by
    rw [← classes_unstyled, hkin.2, classes_unstyled]
  found i h j e hkin := by
    rw [← findable_unstyled_iff, hkin.2, findable_unstyled_iff]

/-! ## Two pages side by side -/

/-- The numbers of the elements of a tree, in document order. -/
def elementIds (n : Node) : List Nat :=
  (n.nodes.filter fun m => m.head?.isSome).map Node.id

theorem elementIds_retouch (g : Nat → Element → Element) (n : Node) :
    elementIds (n.retouch (.heads g)) = elementIds n := by
  have hhead (m : Node) : (m.retouch (.heads g)).head?.isSome = m.head?.isSome := by
    cases m <;> rfl
  rw [elementIds, Node.nodes_retouch, List.filter_map, List.map_map, elementIds]
  have hfilter : (fun m : Node => m.head?.isSome) ∘ Node.retouch (.heads g) =
      fun m => m.head?.isSome := funext hhead
  rw [hfilter]
  exact List.map_congr_left fun m _ => Node.id_retouch_heads g m

theorem elementIds_leaf (i : Nat) (k : TextKind) (s : String) : elementIds (.leaf i k s) = [] := rfl

theorem elementIds_element (i : Nat) (h : Element) (cs : List Node) :
    elementIds (.element i h cs) = i :: cs.flatMap elementIds := by
  rw [elementIds, Node.nodes_element, List.filter_cons_of_pos (by rfl), List.filter_flatMap,
    List.map_cons, List.map_flatMap]
  rfl

/-- Elements that answer to each other stand at the same place in the order of elements. -/
theorem Recut.inOrder {ns ms : List Node} (hr : Recut R ns ms) :
    (ns.flatMap elementIds).length = (ms.flatMap elementIds).length ∧
      Recut (fun i h j e => R i h j e ∧
        (i, j) ∈ (ns.flatMap elementIds).zip (ms.flatMap elementIds)) ns ms := by
  induction hr with
  | nil => exact ⟨rfl, .nil⟩
  | texts one other same _ ih =>
      have hnone {ts : List Node} (h : ∀ t ∈ ts, isText t = true) : ts.flatMap elementIds = [] := by
        rw [List.flatMap_eq_nil_iff]
        intro t ht
        cases t with
        | leaf i k s => rfl
        | element i e cs => cases h _ ht
      rw [List.flatMap_append, List.flatMap_append, hnone one, hnone other]
      exact ⟨ih.1, .texts one other same ih.2⟩
  | note kind _ ih => exact ⟨ih.1, .note kind ih.2⟩
  | @element i j h e cs ds ns ms kin _ _ ihbelow ih =>
      rw [List.flatMap_cons, List.flatMap_cons, elementIds_element, elementIds_element,
        List.cons_append, List.cons_append, List.zip_cons_cons, List.zip_append ihbelow.1]
      -- the element comes first, then what is below it, then what is behind it
      refine ⟨by simp [ihbelow.1, ih.1], .element ⟨kin, List.mem_cons_self⟩ ?_ ?_⟩
      · exact ihbelow.2.imp fun _ _ _ _ hkin => ⟨hkin.1, by simp [hkin.2]⟩
      · exact ih.2.imp fun _ _ _ _ hkin => ⟨hkin.1, by simp [hkin.2]⟩

theorem elementIds_nodup {page : Node} (hn : page.Numbered) : (elementIds page).Nodup :=
  (List.filter_sublist.map _).nodup hn

/-- What stands at the same place in two lists without repetition answers one to one. -/
theorem biUnique_zip {is js : List Nat} (hi : is.Nodup) (hj : js.Nodup) :
    Relator.BiUnique fun i j => (i, j) ∈ is.zip js := by
  have hget {i j : Nat} (h : (i, j) ∈ is.zip js) :
      ∃ k : Nat, is[k]? = some i ∧ js[k]? = some j := by
    obtain ⟨k, hk⟩ := List.mem_iff_getElem?.mp h
    rw [List.getElem?_zip_eq_some] at hk
    exact ⟨k, hk⟩
  have hinj {l : List Nat} (hl : l.Nodup) {k k' a : Nat} (h : l[k]? = some a)
      (h' : l[k']? = some a) : k = k' := by
    obtain ⟨hk, rfl⟩ := List.getElem?_eq_some_iff.mp h
    obtain ⟨hk', he⟩ := List.getElem?_eq_some_iff.mp h'
    exact (hl.getElem_inj_iff.mp he).symm
  constructor
  · intro i i' j h h'
    obtain ⟨k, hik, hjk⟩ := hget h
    obtain ⟨k', hik', hjk'⟩ := hget h'
    rw [hinj hj hjk hjk', hik'] at hik
    exact (Option.some.inj hik).symm
  · intro i j j' h h'
    obtain ⟨k, hik, hjk⟩ := hget h
    obtain ⟨k', hik', hjk'⟩ := hget h'
    rw [hinj hi hik hik', hjk'] at hjk
    exact (Option.some.inj hjk).symm

/-- **On numbered pages, what answers to what is one to one.** -/
theorem Twin.exists_biUnique {page page' : Node} (hn : page.Numbered) (hn' : page'.Numbered)
    (ht : Twin R page page') :
    ∃ C : Nat → Nat → Prop, Relator.BiUnique C ∧
      Twin (fun i h j e => R i h j e ∧ C i j) page page' := by
  refine ⟨_, biUnique_zip (elementIds_nodup hn) (elementIds_nodup hn'), ?_⟩
  cases ht with
  | @intro i j h e cs ds kin below =>
      rw [elementIds_element, elementIds_element, List.zip_cons_cons]
      refine .intro ⟨kin, List.mem_cons_self⟩ (below.inOrder.2.imp fun _ _ _ _ hkin => ?_)
      exact ⟨hkin.1, List.mem_cons_of_mem _ hkin.2⟩

theorem mem_elementIds {page : Node} {p : Place} (hp : p ∈ (Place.top page).all)
    (he : p.element?.isSome = true) : p.node.id ∈ elementIds page :=
  List.mem_map_of_mem (List.mem_filter.mpr ⟨Place.node_mem_nodes hp, he⟩)

/-- On a numbered page, an element's number is found at an element only. -/
theorem element?_of_mem_elementIds {page : Node} (hn : page.Numbered) {p : Place}
    (hp : p ∈ (Place.top page).all) (hi : p.node.id ∈ elementIds page) :
    p.element?.isSome = true := by
  obtain ⟨m, hm, hid⟩ := List.mem_map.mp hi
  obtain ⟨hmem, hhead⟩ := List.mem_filter.mp hm
  obtain ⟨q, hq, rfl⟩ := Place.exists_of_mem_nodes hmem
  rw [← Place.eq_of_id_eq (r := Place.top page) hn hq hp hid]
  exact hhead

/-- Two numbered pages that differ in texts and styles only. Their elements bear the numbers `is`
and `js`. -/
structure Twins (C : Nat → Nat → Prop) (is js : List Nat) (page page' : Node) : Prop where
  numbered : page.Numbered
  numbered' : page'.Numbered
  ids : elementIds page = is
  ids' : elementIds page' = js
  twin : Twin (ButStyle C) page page'

/-- The numbers of two elements that answer to each other. -/
structure Paired (C : Nat → Nat → Prop) (is js : List Nat) (i j : Nat) : Prop where
  answer : C i j
  mem : i ∈ is
  mem' : j ∈ js

section

variable {is js : List Nat} {page page' : Node} {i j : Nat} {stickerClass : String}

theorem Answers.answer {p q : Place} (ha : Answers (ButStyle C) p q) :
    C p.node.id q.node.id := by
  have hnode := ha.node
  generalize p.node = n at hnode
  generalize q.node = m at hnode
  cases hnode with
  | intro kin _ => exact kin.1

namespace Twins

theorem retouch (ht : Twins C is js page page') {g g' : Nat → Element → Element}
    (hg : ∀ i h j e, ButStyle C i h j e → ButStyle C i (g i h) j (g' j e)) :
    Twins C is js (page.retouch (.heads g)) (page'.retouch (.heads g')) where
  numbered := ht.numbered.retouch_heads g
  numbered' := ht.numbered'.retouch_heads g'
  ids := (elementIds_retouch g page).trans ht.ids
  ids' := (elementIds_retouch g' page').trans ht.ids'
  twin := ht.twin.retouch hg

/-- **A change of two elements that answer to each other.** -/
theorem modify (hC : Relator.BiUnique C) (ht : Twins C is js page page') (hij : Paired C is js i j)
    {f f' : Element → Element}
    (hf : ∀ h e, unstyled h = unstyled e → unstyled (f h) = unstyled (f' e)) :
    Twins C is js (page.modify i f) (page'.modify j f') := by
  rw [Node.modify_eq_retouch, Node.modify_eq_retouch]
  refine ht.retouch fun k h l e hkin => ⟨hkin.1, ?_⟩
  -- the change meets the one element exactly where it meets the other
  have hiff : k = i ↔ l = j :=
    ⟨fun hk => hC.2 (hk ▸ hkin.1) hij.answer, fun hl => hC.1 (hl ▸ hkin.1) hij.answer⟩
  by_cases hk : k = i
  · rw [if_pos hk, if_pos (hiff.mp hk)]
    exact hf h e hkin.2
  · rw [if_neg hk, if_neg (fun hl => hk (hiff.mpr hl))]
    exact hkin.2

theorem modifyEach (hC : Relator.BiUnique C) (ht : Twins C is js page page') {ids ids' : List Nat}
    (hids : List.Forall₂ (Paired C is js) ids ids') {f : Element → Element}
    (hf : ∀ h e, unstyled h = unstyled e → unstyled (f h) = unstyled (f e)) :
    Twins C is js (modifyEach f ids page) (modifyEach f ids' page') :=
  List.rel_foldl (fun _ _ ht _ _ hij => ht.modify hC hij hf) ht hids

/-- What answers to each other on two pages is paired. -/
theorem paired (ht : Twins C is js page page') {p q : Place} (hp : p ∈ (Place.top page).all)
    (hq : q ∈ (Place.top page').all) (ha : Answers (ButStyle C) p q) :
    Paired C is js p.node.id q.node.id := by
  have hboth : p.element?.isSome = true ∧ q.element?.isSome = true := by
    have hnode := ha.node
    rw [Place.element?, Place.element?]
    generalize p.node = n at hnode
    generalize q.node = m at hnode
    cases hnode
    exact ⟨rfl, rfl⟩
  exact ⟨ha.answer, ht.ids ▸ mem_elementIds hp hboth.1, ht.ids' ▸ mem_elementIds hq hboth.2⟩

theorem paired_ids (ht : Twins C is js page page') {ps qs : List Place}
    (hps : ps ⊆ (Place.top page).all) (hqs : qs ⊆ (Place.top page').all)
    (h : List.Forall₂ (Answers (ButStyle C)) ps qs) :
    List.Forall₂ (Paired C is js) (ps.map (·.node.id)) (qs.map (·.node.id)) := by
  rw [List.forall₂_map_left_iff, List.forall₂_map_right_iff, List.forall₂_iff_zip]
  refine ⟨h.length_eq, fun {p q} hpq => ?_⟩
  obtain ⟨hp, hq⟩ := List.of_mem_zip hpq
  exact ht.paired (hps hp) (hqs hq) (List.forall₂_zip h hpq)

/-- **Two numbers that are paired are found at places that answer to each other**, or not at all. -/
theorem find? (hC : Relator.BiUnique C) (ht : Twins C is js page page') (hij : Paired C is js i j)
    {p q : Place} (hp : p ∈ (Place.top page).all) (hq : q ∈ (Place.top page').all)
    (ha : Answers (ButStyle C) p q) :
    Option.Rel (Answers (ButStyle C)) (p.find? i) (q.find? j) := by
  -- leaves bear no number of an element, so the search may go through the elements alone
  have helements {page : Node} (hn : page.Numbered) {p : Place} (hp : p ∈ (Place.top page).all)
      {i : Nat} (hi : i ∈ elementIds page) :
      p.find? i = (Place.elements p.all).find? fun r => r.node.id == i := by
    rw [Place.find?, Place.elements, List.find?_filter]
    refine List.find?_congr fun r hr => ?_
    by_cases hid : r.node.id = i
    · have hmem := element?_of_mem_elementIds hn ((Place.all_sublist hp).subset hr) (hid ▸ hi)
      simp [hid, hmem]
    · simp [hid]
  rw [helements ht.numbered hp (ht.ids ▸ hij.mem), helements ht.numbered' hq (ht.ids' ▸ hij.mem')]
  refine rel_find? (fun r r' hr => ?_) (ha.all (legible_butStyle C ""))
  rw [Bool.eq_iff_iff, beq_iff_eq, beq_iff_eq]
  exact ⟨fun hr' => hC.2 (hr' ▸ hr.answer) hij.answer, fun hr' => hC.1 (hr' ▸ hr.answer) hij.answer⟩

/-! ## The sweep of one block -/

section

variable {ids ids' : List Nat} {rules : Rules} {sizes sizes' : Sizes}

theorem clear (hC : Relator.BiUnique C) (ht : Twins C is js page page') (hij : Paired C is js i j)
    (hids : List.Forall₂ (Paired C is js) ids ids') :
    Twins C is js (clear rules i ids page) (clear rules j ids' page') := by
  have hremove (name : String) (h e : Element) (hsame : unstyled h = unstyled e) :
      unstyled (Marker.remove name h) = unstyled (Marker.remove name e) := by
    rw [unstyled_remove, hsame, unstyled_remove]
  exact (ht.modify hC hij (hremove _)).modifyEach hC hids (hremove _)

theorem classify (hC : Relator.BiUnique C) (ht : Twins C is js page page')
    (hij : Paired C is js i j) (hids : List.Forall₂ (Paired C is js) ids ids') :
    classify rules i ids page = classify rules j ids' page' := by
  have hl := legible_butStyle C rules.stickerClass
  -- the block is found on both pages or on neither, and so is each sticker in it
  have hfound := ht.find? hC hij List.mem_cons_self List.mem_cons_self ht.twin.top
  unfold Layout.classify
  cases hb : (Place.top page).find? i with
  | none =>
      rw [hb] at hfound
      cases hb' : (Place.top page').find? j with
      | none => rfl
      | some b' => rw [hb'] at hfound; cases hfound
  | some b =>
      rw [hb] at hfound
      cases hb' : (Place.top page').find? j with
      | none => rw [hb'] at hfound; cases hfound
      | some b' =>
          rw [hb'] at hfound
          cases hfound with
          | some ha =>
              have hball := (Place.mem_of_find? hb).1
              have hball' := (Place.mem_of_find? hb').1
              refine ha.node.judge hl (List.rel_filterMap (fun k l hkl => ?_) hids)
              exact ht.find? hC hkl hball hball' ha

theorem isEmpty_of_forall₂ {α β : Type} {P : α → β → Prop} {as : List α} {bs : List β}
    (h : List.Forall₂ P as bs) : as.isEmpty = bs.isEmpty := by
  cases h <;> rfl

theorem pairs_zip (hids : List.Forall₂ (Paired C is js) ids ids') (vs : List Bool) :
    List.Forall₂ (fun a b : Nat × Bool => Paired C is js a.1 b.1 ∧ a.2 = b.2)
      (ids.zip vs) (ids'.zip vs) := by
  induction hids generalizing vs with
  | nil => exact .nil
  | cons hij _ ih =>
      cases vs with
      | nil => exact .nil
      | cons v r => exact .cons ⟨hij, rfl⟩ (ih r)

theorem mark (hC : Relator.BiUnique C) (ht : Twins C is js page page') (hij : Paired C is js i j)
    (hids : List.Forall₂ (Paired C is js) ids ids') (v : Verdict) :
    Twins C is js (mark rules i ids v page) (mark rules j ids' v page') := by
  have hadd (name : String) (h e : Element) (hsame : unstyled h = unstyled e) :
      unstyled (Marker.add name h) = unstyled (Marker.add name e) := by
    rw [unstyled_add, hsame, unstyled_add]
  have hmarked := List.rel_filter (p := (·.2)) (q := (·.2))
    (fun (a b : Nat × Bool) (hab : Paired C is js a.1 b.1 ∧ a.2 = b.2) => by
      show a.2 = true ↔ b.2 = true
      rw [hab.2]) (pairs_zip hids v.images)
  have hmarkedIds : List.Forall₂ (Paired C is js)
      (((ids.zip v.images).filter (·.2)).map (·.1))
      (((ids'.zip v.images).filter (·.2)).map (·.1)) :=
    List.rel_map (fun _ _ hab => hab.1) hmarked
  unfold Layout.mark
  dsimp only
  refine Twins.modifyEach hC ?_ hmarkedIds (hadd _)
  split
  · exact ht.modify hC hij (hadd _)
  · exact ht

theorem restyle (hC : Relator.BiUnique C) (ht : Twins C is js page page')
    (hids : List.Forall₂ (Paired C is js) ids ids') (vs : List Bool) :
    Twins C is js (restyle sizes (ids.zip vs) page) (restyle sizes' (ids'.zip vs) page') := by
  refine List.rel_foldl (fun _ _ ht a b hab => ?_) ht (pairs_zip hids vs)
  refine ht.modify hC hab.1 fun h e hsame => ?_
  rw [unstyled_style, unstyled_style, hsame]

/-- Old markers come off, the verdicts are the same, and so are the new markers. -/
theorem reclassify (hC : Relator.BiUnique C) (ht : Twins C is js page page')
    (hij : Paired C is js i j) (hids : List.Forall₂ (Paired C is js) ids ids') :
    Twins C is js
        (Layout.restyle sizes (ids.zip (reclassify rules i ids page).2.images)
          (Layout.reclassify rules i ids page).1)
        (Layout.restyle sizes' (ids'.zip (Layout.reclassify rules j ids' page').2.images)
          (Layout.reclassify rules j ids' page').1) ∧
      some (Layout.reclassify rules i ids page).2 =
        some (Layout.reclassify rules j ids' page').2 := by
  have hclear : Twins C is js (Layout.clear rules i ids page) (Layout.clear rules j ids' page') :=
    ht.clear hC hij hids
  have hsame : Layout.classify rules i ids (Layout.clear rules i ids page) =
      Layout.classify rules j ids' (Layout.clear rules j ids' page') :=
    hclear.classify hC hij hids
  simp only [Layout.reclassify]
  rw [hsame]
  exact ⟨(hclear.mark hC hij hids _).restyle hC hids _, rfl⟩

/-- **The sweep of a block and that of its twin come out alike.** -/
theorem sweepBlock (hC : Relator.BiUnique C) (ht : Twins C is js page page')
    (hij : Paired C is js i j) :
    Twins C is js (sweepBlock rules sizes i page).1 (sweepBlock rules sizes' j page').1 ∧
      (sweepBlock rules sizes i page).2 = (sweepBlock rules sizes' j page').2 := by
  have hl := legible_butStyle C rules.stickerClass
  have hfound := ht.find? hC hij List.mem_cons_self List.mem_cons_self ht.twin.top
  unfold Layout.sweepBlock
  cases hb : (Place.top page).find? i with
  | none =>
      rw [hb] at hfound
      cases hb' : (Place.top page').find? j with
      | none => exact ⟨ht, rfl⟩
      | some b' => rw [hb'] at hfound; cases hfound
  | some b =>
      rw [hb] at hfound
      cases hb' : (Place.top page').find? j with
      | none => rw [hb'] at hfound; cases hfound
      | some b' =>
          rw [hb'] at hfound
          cases hfound with
          | some ha =>
              have hids := ht.paired_ids (stickers_subset_all (Place.mem_of_find? hb).1)
                (stickers_subset_all (Place.mem_of_find? hb').1) (ha.stickers hl)
              have hempty : ((stickers rules.stickerClass b).map (·.node.id)).isEmpty =
                  ((stickers rules.stickerClass b').map (·.node.id)).isEmpty :=
                isEmpty_of_forall₂ hids
              dsimp only
              -- the two go down the same branch
              rw [ha.node.isBlock hl, hempty]
              split
              · split
                · exact ⟨ht.clear hC hij .nil, rfl⟩
                · exact ht.reclassify hC hij hids
              · exact ⟨ht, rfl⟩

/-! ## The whole sweep -/

theorem sweepCounting (hC : Relator.BiUnique C) {s s' : Node × Stats}
    (ht : Twins C is js s.1 s'.1 ∧ s.2 = s'.2) (hij : Paired C is js i j) :
    Twins C is js (sweepCounting rules sizes s i).1 (sweepCounting rules sizes' s' j).1 ∧
      (sweepCounting rules sizes s i).2 = (sweepCounting rules sizes' s' j).2 := by
  obtain ⟨hpages, hverdict⟩ :
      Twins C is js (Layout.sweepBlock rules sizes i s.1).1
          (Layout.sweepBlock rules sizes' j s'.1).1 ∧
        (Layout.sweepBlock rules sizes i s.1).2 = (Layout.sweepBlock rules sizes' j s'.1).2 :=
    ht.1.sweepBlock hC hij
  unfold Layout.sweepCounting
  revert hpages hverdict
  generalize Layout.sweepBlock rules sizes i s.1 = r
  generalize Layout.sweepBlock rules sizes' j s'.1 = r'
  obtain ⟨page, v⟩ := r
  obtain ⟨page', v'⟩ := r'
  rintro hpages (rfl : v = v')
  cases v with
  | none => exact ⟨hpages, ht.2⟩
  | some v => exact ⟨hpages, by rw [ht.2]⟩

theorem sweepStandalone (hC : Relator.BiUnique C) (ht : Twins C is js page page')
    (hij : Paired C is js i j) :
    Twins C is js (sweepStandalone rules sizes page i) (sweepStandalone rules sizes' page' j) := by
  refine (ht.modify hC hij fun h e hsame => ?_).modify hC hij fun h e hsame => ?_
  · rw [unstyled_remove, hsame, unstyled_remove]
  · rw [unstyled_style, unstyled_style, hsame]

/-- **The sweeps of two pages that differ in texts only come out alike**, and count the same. -/
theorem sweep (hC : Relator.BiUnique C) (ht : Twins C is js page page') :
    Twins C is js (sweep rules sizes page).1 (sweep rules sizes' page').1 ∧
      (sweep rules sizes page).2 = (sweep rules sizes' page').2 := by
  have hl := legible_butStyle C rules.stickerClass
  have hblocks := ht.paired_ids (fun _ hb => (mem_blocks.mp hb).1)
    (fun _ hb => (mem_blocks.mp hb).1) (ht.twin.top.blocks hl rules.blockTags)
  have hstart : Twins C is js (page, ({} : Stats)).1 (page', ({} : Stats)).1 ∧
      (page, ({} : Stats)).2 = (page', ({} : Stats)).2 := ⟨ht, rfl⟩
  have hstep (s s' : Node × Stats) (ht : Twins C is js s.1 s'.1 ∧ s.2 = s'.2) (i j : Nat)
      (hij : Paired C is js i j) :
      Twins C is js (Layout.sweepCounting rules sizes s i).1
          (Layout.sweepCounting rules sizes' s' j).1 ∧
        (Layout.sweepCounting rules sizes s i).2 = (Layout.sweepCounting rules sizes' s' j).2 :=
    sweepCounting hC ht hij
  have hafter := List.rel_foldl
    (P := fun s s' : Node × Stats => Twins C is js s.1 s'.1 ∧ s.2 = s'.2)
    (R := Paired C is js) (fun s s' ht i j hij => hstep s s' ht i j hij) hstart hblocks
  unfold Layout.sweep
  dsimp only at hafter ⊢
  revert hafter
  generalize List.foldl (Layout.sweepCounting rules sizes) _ _ = r
  generalize List.foldl (Layout.sweepCounting rules sizes') _ _ = r'
  obtain ⟨swept, stats⟩ := r
  obtain ⟨swept', stats'⟩ := r'
  rintro ⟨hswept, rfl : stats = stats'⟩
  -- the stickers in no block are looked up on the pages as they are now
  have hsub {page : Node} :
      standalone rules.stickerClass rules.blockTags (Place.top page) ⊆ (Place.top page).all :=
    fun _ hp => stickers_subset_all List.mem_cons_self (mem_standalone.mp hp).1
  have halone := hswept.paired_ids hsub hsub (hswept.twin.top.standalone hl rules.blockTags)
  refine ⟨?_, by rw [halone.length_eq]⟩
  exact List.rel_foldl (R := Paired C is js) (fun _ _ ht _ _ hij => sweepStandalone hC ht hij)
    hswept halone

end

end Twins

end

end StickerPages.Layout
