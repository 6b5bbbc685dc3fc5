import Mathlib.Data.List.Perm.Basic
import StickerPages.Proofs.Ancestry
import StickerPages.Proofs.Retouch

/-!
# Changing the children of one element

Appending, inserting and removing all change the children of one element and nothing else. To say
what they do to a page that is a heap of nested lists, the page is taken apart once: a `Gap` is the
page without the children of that element, to be filled with any others. `exists_gap` finds it on
every page on which the element has a number of its own, and whatever is to be known about a change
of children is known about the filling of a gap.

The question is always who is there afterwards. A `census` lists every number with the element that
bears it, or with nothing for a leaf; filling a gap adds the census of what is filled in.
-/

namespace StickerPages.Markup

namespace Node

/-- Every number at or below a node, with the element that bears it. -/
def census (n : Node) : List (Nat × Option Element) :=
  n.nodes.map fun m => (m.id, m.head?)

/-- The census of several trees. -/
def censusOfAll (ns : List Node) : List (Nat × Option Element) :=
  ns.flatMap census

theorem census_element (i : Nat) (h : Element) (cs : List Node) :
    (Node.element i h cs).census = (i, some h) :: censusOfAll cs := by
  rw [census, nodes_element, List.map_cons, List.map_flatMap]
  rfl

@[simp]
theorem censusOfAll_nil : censusOfAll [] = [] := rfl

@[simp]
theorem censusOfAll_cons (n : Node) (ns : List Node) :
    censusOfAll (n :: ns) = n.census ++ censusOfAll ns := rfl

@[simp]
theorem censusOfAll_append (ns ms : List Node) :
    censusOfAll (ns ++ ms) = censusOfAll ns ++ censusOfAll ms :=
  List.flatMap_append

theorem map_fst_census (n : Node) : n.census.map Prod.fst = n.ids := by
  rw [census, List.map_map]
  rfl

theorem map_fst_censusOfAll (ns : List Node) : (censusOfAll ns).map Prod.fst = idsOfAll ns := by
  rw [censusOfAll, List.map_flatMap]
  exact List.flatMap_congr fun n _ => map_fst_census n

theorem mem_ids_of_mem_nodes {m n : Node} (h : m ∈ n.nodes) : m.id ∈ n.ids :=
  List.mem_map_of_mem h

theorem mem_idsOfAll {ns : List Node} {n : Node} (h : n ∈ ns) : n.ids ⊆ idsOfAll ns :=
  fun _ hi => List.mem_flatMap.mpr ⟨n, h, hi⟩

/-- A number of one tree is a number of none beside it. -/
theorem split_of_mem {ns : List Node} (hn : (idsOfAll ns).Nodup) {n : Node} (hm : n ∈ ns) {i : Nat}
    (hi : i ∈ n.ids) : ∃ l r, ns = l ++ n :: r ∧ i ∉ idsOfAll l ∧ i ∉ idsOfAll r := by
  obtain ⟨l, r, rfl⟩ := List.append_of_mem hm
  rw [idsOfAll_append, idsOfAll_cons, List.nodup_append, List.nodup_append] at hn
  obtain ⟨_, ⟨_, _, hr⟩, hl⟩ := hn
  exact ⟨l, r, rfl, fun h => hl i h i (List.mem_append_left _ hi) rfl, fun h => hr i hi i h rfl⟩

/-- Two trees of a list that have a number in common are the same. -/
theorem eq_of_mem_ids {ns : List Node} (hn : (idsOfAll ns).Nodup) {m n : Node} (hm : m ∈ ns)
    (hn' : n ∈ ns) {i : Nat} (him : i ∈ m.ids) (hin : i ∈ n.ids) : m = n := by
  obtain ⟨l, r, rfl, hl, hr⟩ := split_of_mem hn hm him
  rcases List.mem_append.mp hn' with h | h
  · exact absurd (mem_idsOfAll h hin) hl
  · rcases List.mem_cons.mp h with rfl | h
    · rfl
    · exact absurd (mem_idsOfAll h hin) hr

theorem numbered_of_mem_trees {ns : List Node} (hn : (idsOfAll ns).Nodup) {n : Node}
    (h : n ∈ ns) : n.Numbered := by
  obtain ⟨l, r, rfl⟩ := List.append_of_mem h
  rw [idsOfAll_append, idsOfAll_cons, List.nodup_append, List.nodup_append] at hn
  exact hn.2.1.1

/-! ## Changes that pass a tree by -/

theorem modifyChildrenAll_eq (t : Nat) (F : List Node → List Node) (ns : List Node) :
    modifyChildrenAll t F ns = ns.map (modifyChildren t F) := by
  induction ns with
  | nil => rfl
  | cons n ns ih => rw [modifyChildrenAll, ih, List.map_cons]

/-- Where no element bears the number, nothing is changed. -/
theorem modifyChildren_of_no_bearer {t : Nat} (F : List Node → List Node) (n : Node) :
    (∀ h, (t, some h) ∉ n.census) → n.modifyChildren t F = n := by
  induction n using induct with
  | leaf i k s => intro _; rfl
  | element i h cs ih =>
      intro hno
      rw [census_element] at hno
      have hcs : cs.map (modifyChildren t F) = cs := by
        refine (List.map_congr_left fun c hc => ih c hc fun h' hm => ?_).trans (List.map_id _)
        exact hno h' (List.mem_cons_of_mem _ (List.mem_flatMap.mpr ⟨c, hc, hm⟩))
      have hi : ¬ i = t := by
        rintro rfl
        exact hno h List.mem_cons_self
      rw [modifyChildren, modifyChildrenAll_eq, hcs, if_neg hi]

theorem modifyChildren_of_not_mem {t : Nat} (F : List Node → List Node) {n : Node}
    (h : t ∉ n.ids) : n.modifyChildren t F = n := by
  refine modifyChildren_of_no_bearer F n fun e he => h ?_
  rw [← map_fst_census]
  exact List.mem_map_of_mem (f := Prod.fst) he

/-- Giving every element the children it has changes nothing. -/
theorem modifyChildren_id (t : Nat) {F : List Node → List Node} (hF : ∀ cs, F cs = cs) (n : Node) :
    n.modifyChildren t F = n := by
  induction n using induct with
  | leaf i k s => rfl
  | element i h cs ih =>
      have hcs : cs.map (modifyChildren t F) = cs := (List.map_congr_left ih).trans (List.map_id _)
      rw [modifyChildren, modifyChildrenAll_eq, hcs, hF cs, ite_self]

theorem retouch_text_of_not_mem {old : Nat} (new : Nat) (s : String) {n : Node} (h : old ∉ n.ids) :
    n.retouch (.text old new s) = n := by
  have hsame : n.retouch (.text old new s) = n.retouch (.heads fun _ h => h) := by
    refine retouch_congr n (fun _ _ _ _ => rfl) fun i k t hm => ?_
    have hne : i ≠ old := fun he => h (he ▸ mem_ids_of_mem_nodes hm)
    exact if_neg hne
  exact hsame.trans (retouch_nothing n)

theorem map_of_not_mem {f : Node → Node} {i : Nat} (hf : ∀ n : Node, i ∉ n.ids → f n = n)
    {ns : List Node} (h : i ∉ idsOfAll ns) : ns.map f = ns :=
  (List.map_congr_left fun n hn => hf n fun hm => h (mem_idsOfAll hn hm)).trans (List.map_id _)

end Node

/-! ## Gaps -/

open Node

/-- Trees with a gap where the children `cs` of the element numbered `t` stand: `fill` puts other
nodes there, and `outside` is the census of what stays. -/
structure Gap (ns : List Node) (t : Nat) (cs : List Node) (outside : List (Nat × Option Element))
    (fill : List Node → List Node) : Prop where
  fill_self : fill cs = ns
  /-- Changing the children of that element is filling the gap. -/
  modify : ∀ F, ns.map (modifyChildren t F) = fill (F cs)
  census : ∀ ds, (censusOfAll (fill ds)).Perm (outside ++ censusOfAll ds)
  /-- A text that lies in the gap may be replaced before or after filling it. -/
  text : ∀ old new s, old ∉ outside.map Prod.fst → ∀ ds,
    (fill ds).map (Node.retouch (.text old new s)) = fill (ds.map (Node.retouch (.text old new s)))
  bearer : ∃ h, (t, some h) ∈ outside

namespace Gap

variable {ns cs : List Node} {t : Nat} {outside : List (Nat × Option Element)}
  {fill : List Node → List Node}

/-- The gap right inside one element. -/
theorem here {h : Element} (ht : t ∉ idsOfAll cs) :
    Gap [.element t h cs] t cs [(t, some h)] fun ds => [.element t h ds] where
  fill_self := rfl
  modify F := by
    have hcs : cs.map (modifyChildren t F) = cs :=
      map_of_not_mem (fun _ hn => modifyChildren_of_not_mem F hn) ht
    rw [List.map_singleton, modifyChildren, if_pos rfl, modifyChildrenAll_eq, hcs]
  census ds := by
    rw [censusOfAll_cons, censusOfAll_nil, List.append_nil, census_element]
    exact List.Perm.refl _
  text old new s hold ds := by
    rw [List.map_singleton, retouch, retouchAll_eq]
    rfl
  bearer := ⟨h, List.mem_cons_self⟩

/-- A gap with an element around it. -/
theorem inElement (hgap : Gap ns t cs outside fill) {i : Nat} (h : Element) (hi : i ≠ t) :
    Gap [.element i h ns] t cs ((i, some h) :: outside) fun ds => [.element i h (fill ds)] where
  fill_self := by rw [hgap.fill_self]
  modify F := by
    rw [List.map_singleton, modifyChildren, if_neg hi, modifyChildrenAll_eq, hgap.modify]
  census ds := by
    rw [censusOfAll_cons, censusOfAll_nil, List.append_nil, census_element]
    exact (hgap.census ds).cons _
  text old new s hold ds := by
    rw [List.map_cons, List.mem_cons, not_or] at hold
    rw [List.map_singleton, retouch, retouchAll_eq, hgap.text old new s hold.2]
    rfl
  bearer := hgap.bearer.imp fun _ hm => List.mem_cons_of_mem _ hm

/-- A gap with trees on either side. -/
theorem among (hgap : Gap ns t cs outside fill) {l r : List Node} (hl : t ∉ idsOfAll l)
    (hr : t ∉ idsOfAll r) :
    Gap (l ++ ns ++ r) t cs (censusOfAll l ++ outside ++ censusOfAll r)
      fun ds => l ++ fill ds ++ r where
  fill_self := by rw [hgap.fill_self]
  modify F := by
    have hpass {ms : List Node} (hms : t ∉ idsOfAll ms) : ms.map (modifyChildren t F) = ms :=
      map_of_not_mem (fun _ hn => modifyChildren_of_not_mem F hn) hms
    rw [List.map_append, List.map_append, hpass hl, hpass hr, hgap.modify]
  census ds := by
    have hfill := List.perm_iff_count.mp (hgap.census ds)
    rw [List.perm_iff_count]
    intro e
    have he := hfill e
    simp only [censusOfAll_append, List.count_append] at he ⊢
    omega
  text old new s hold ds := by
    rw [List.map_append, List.map_append, List.mem_append, List.mem_append, map_fst_censusOfAll,
      map_fst_censusOfAll, not_or, not_or] at hold
    have hpass {ms : List Node} (hms : old ∉ idsOfAll ms) :
        ms.map (Node.retouch (.text old new s)) = ms :=
      map_of_not_mem (fun _ hn => retouch_text_of_not_mem new s hn) hms
    rw [List.map_append, List.map_append, hpass hold.1.1, hpass hold.2,
      hgap.text old new s hold.1.2]
  bearer := hgap.bearer.imp fun _ hm => List.mem_append_left _ (List.mem_append_right _ hm)

end Gap

/-- A gap in one of several trees is a gap in all of them. -/
theorem exists_gap_of_each {ns cs : List Node} {t : Nat} {h : Element}
    (hn : (idsOfAll ns).Nodup) (hm : .element t h cs ∈ ns.flatMap nodes)
    (each : ∀ n ∈ ns, n.Numbered → .element t h cs ∈ n.nodes →
      ∃ outside fill, Gap [n] t cs outside fill) :
    ∃ outside fill, Gap ns t cs outside fill := by
  obtain ⟨n, hmem, hin⟩ := List.mem_flatMap.mp hm
  obtain ⟨outside, fill, hgap⟩ := each n hmem (numbered_of_mem_trees hn hmem) hin
  obtain ⟨l, r, rfl, hl, hr⟩ := split_of_mem hn hmem (mem_ids_of_mem_nodes hin)
  have hamong := hgap.among hl hr
  rw [List.append_assoc, List.singleton_append] at hamong
  exact ⟨_, _, hamong⟩

theorem exists_gap_of_node {cs : List Node} {t : Nat} {h : Element} (n : Node) :
    n.Numbered → .element t h cs ∈ n.nodes → ∃ outside fill, Gap [n] t cs outside fill := by
  induction n using Node.induct with
  | leaf i k s =>
      intro _ hin
      cases List.mem_singleton.mp hin
  | element i h' ds ih =>
      intro hnum hin
      rw [Numbered, ids_element, List.nodup_cons] at hnum
      rw [nodes_element] at hin
      rcases List.mem_cons.mp hin with he | hin
      · cases he
        exact ⟨_, _, Gap.here hnum.1⟩
      · obtain ⟨outside, fill, hgap⟩ := exists_gap_of_each hnum.2 hin ih
        have hi : i ≠ t := by
          rintro rfl
          obtain ⟨d, hd, hmd⟩ := List.mem_flatMap.mp hin
          exact hnum.1 (List.mem_flatMap.mpr ⟨d, hd, mem_ids_of_mem_nodes hmd⟩)
        exact ⟨_, _, hgap.inElement h' hi⟩

/-- **Every element of numbered trees leaves a gap** where its children stand. -/
theorem exists_gap {ns cs : List Node} {t : Nat} {h : Element} (hn : (idsOfAll ns).Nodup)
    (hm : .element t h cs ∈ ns.flatMap nodes) : ∃ outside fill, Gap ns t cs outside fill :=
  exists_gap_of_each hn hm fun n _ => exists_gap_of_node n

/-! ## One child among its siblings -/

theorem filter_of_not_mem {ns : List Node} {i : Nat} (h : i ∉ idsOfAll ns) :
    (ns.filter fun c => c.id != i) = ns := by
  rw [List.filter_eq_self]
  intro c hc
  simpa using fun he : c.id = i => h (mem_idsOfAll hc (he ▸ id_mem_ids c))

/-- Putting a new leaf in the place of the node of one number. -/
def swap (i new : Nat) (s : String) (c : Node) : Node :=
  if c.id = i then .leaf new .plain s else c

theorem swap_of_not_mem {i : Nat} (new : Nat) (s : String) {c : Node} (h : i ∉ c.ids) :
    swap i new s c = c := by
  rw [swap, if_neg]
  rintro rfl
  exact h (id_mem_ids c)

/-- Replacing a text among the children of an element is replacing it wherever it is. -/
theorem map_swap_eq_retouch {cs : List Node} (hn : (idsOfAll cs).Nodup) {i : Nat} {k : TextKind}
    {t : String} (hi : .leaf i k t ∈ cs) (new : Nat) (s : String) :
    cs.map (swap i new s) = cs.map (Node.retouch (.text i new s)) := by
  obtain ⟨l, r, rfl, hl, hr⟩ := split_of_mem hn hi List.mem_cons_self
  have hswap {ms : List Node} (hms : i ∉ idsOfAll ms) : ms.map (swap i new s) = ms :=
    map_of_not_mem (fun _ h => swap_of_not_mem new s h) hms
  have hretouch {ms : List Node} (hms : i ∉ idsOfAll ms) :
      ms.map (Node.retouch (.text i new s)) = ms :=
    map_of_not_mem (fun _ h => retouch_text_of_not_mem new s h) hms
  rw [List.map_append, List.map_append, List.map_cons, List.map_cons, hswap hl, hswap hr,
    hretouch hl, hretouch hr]
  simp [swap, Node.id, Node.retouch, Retouch.text]

end StickerPages.Markup
