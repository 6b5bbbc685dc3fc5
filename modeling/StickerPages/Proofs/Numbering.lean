import Mathlib.Data.List.Nodup
import StickerPages.Markup.Place

/-!
# A number points at one node

Everything that changes a page points at a node by its number, and every change is made wherever
that number occurs. So a change does what it says only on a page where no number occurs twice: a
*numbered* page. This module says what numbering buys: a place is determined by its number,
`Place.find?` finds it, and the nodes below a place are places of the page themselves.

`Node.nodesOfAll` and its kin are the mutual halves of recursions over trees; they are turned into
`flatMap` and `map` here, so that later proofs are inductions on one node with a hypothesis for each
child (`Node.induct`).
-/

namespace StickerPages.Markup

namespace Node

/-- Induction over a tree, with the hypothesis at every child. -/
theorem induct {P : Node → Prop} (leaf : ∀ i k s, P (.leaf i k s))
    (element : ∀ i h cs, (∀ c ∈ cs, P c) → P (.element i h cs)) (n : Node) : P n :=
  @Node.rec P (fun cs => ∀ c ∈ cs, P c) leaf element (fun _ hc => absurd hc List.not_mem_nil)
    (fun _ _ hc hcs => List.forall_mem_cons.mpr ⟨hc, hcs⟩) n

theorem nodesOfAll_eq (ns : List Node) : nodesOfAll ns = ns.flatMap nodes := by
  induction ns with
  | nil => rfl
  | cons n r ih => rw [nodesOfAll, ih, List.flatMap_cons]

theorem nodes_element (i : Nat) (h : Element) (cs : List Node) :
    (Node.element i h cs).nodes = .element i h cs :: cs.flatMap nodes := by
  rw [nodes, nodesOfAll_eq]

/-- A node comes first among its nodes. -/
theorem nodes_eq (n : Node) : n.nodes = n :: n.descendants := by
  cases n with
  | leaf i k s => rfl
  | element i h cs => rfl

theorem self_mem_nodes (n : Node) : n ∈ n.nodes := by
  rw [nodes_eq]
  exact List.mem_cons_self

/-! ## Numbers -/

/-- The numbers of the node and of everything below it, in document order. -/
def ids (n : Node) : List Nat :=
  n.nodes.map id

/-- The numbers of several trees. -/
def idsOfAll (ns : List Node) : List Nat :=
  ns.flatMap ids

/-- No number occurs twice. -/
def Numbered (n : Node) : Prop :=
  n.ids.Nodup

instance (n : Node) : Decidable n.Numbered :=
  inferInstanceAs (Decidable n.ids.Nodup)

@[simp]
theorem ids_leaf (i : Nat) (k : TextKind) (s : String) : (Node.leaf i k s).ids = [i] := rfl

@[simp]
theorem ids_element (i : Nat) (h : Element) (cs : List Node) :
    (Node.element i h cs).ids = i :: idsOfAll cs := by
  rw [ids, nodes_element, List.map_cons, List.map_flatMap]
  rfl

@[simp]
theorem idsOfAll_nil : idsOfAll [] = [] := rfl

@[simp]
theorem idsOfAll_cons (n : Node) (ns : List Node) : idsOfAll (n :: ns) = n.ids ++ idsOfAll ns := rfl

@[simp]
theorem idsOfAll_append (ns ms : List Node) : idsOfAll (ns ++ ms) = idsOfAll ns ++ idsOfAll ms :=
  List.flatMap_append

theorem id_mem_ids (n : Node) : n.id ∈ n.ids :=
  List.mem_map_of_mem (self_mem_nodes n)

end Node

namespace Place

/-! ## The places of a page are its nodes -/

theorem all_nodes (p : Place) : p.all.map (·.node) = p.node.nodes := by
  rw [all, List.map_cons, inside, Node.placesBelow_nodes, Node.nodes_eq]

/-- The nodes of a page are what stands at its places. -/
theorem exists_of_mem_nodes {page n : Node} (h : n ∈ page.nodes) :
    ∃ p ∈ (top page).all, p.node = n := by
  have hall := all_nodes (top page)
  rw [show (top page).node = page from rfl] at hall
  rw [← hall] at h
  exact List.mem_map.mp h

theorem node_mem_nodes {page : Node} {p : Place} (hp : p ∈ (top page).all) :
    p.node ∈ page.nodes := by
  have h := List.mem_map_of_mem (f := fun q : Place => q.node) hp
  rw [all_nodes] at h
  exact h

theorem all_ids (p : Place) : p.all.map (·.node.id) = p.node.ids := by
  rw [Node.ids, ← all_nodes, List.map_map]
  rfl

theorem inside_ids (p : Place) : p.inside.map (·.node.id) = p.node.descendants.map Node.id := by
  rw [inside, ← Node.placesBelow_nodes p.before p.after p.above p.node, List.map_map]
  rfl

/-- **A place is determined by its number.** -/
theorem eq_of_id_eq {r p q : Place} (hr : r.node.Numbered) (hp : p ∈ r.all) (hq : q ∈ r.all)
    (h : p.node.id = q.node.id) : p = q := by
  have hnd : (r.all.map (·.node.id)).Nodup := by
    rw [all_ids]
    exact hr
  exact List.inj_on_of_nodup_map hnd hp hq h

/-- Among places of a page, one is found by its number. -/
theorem find?_of_mem {r p : Place} {l : List Place} (hr : r.node.Numbered) (hl : l ⊆ r.all)
    (hp : p ∈ l) : l.find? (fun q => q.node.id == p.node.id) = some p := by
  cases hf : l.find? fun q => q.node.id == p.node.id with
  | none => exact absurd (List.find?_eq_none.mp hf p hp) (by simp)
  | some q =>
      have hid : q.node.id = p.node.id := by simpa using List.find?_some hf
      rw [eq_of_id_eq hr (hl (List.mem_of_find?_eq_some hf)) (hl hp) hid]

/-- What is not among them is not found. -/
theorem find?_of_not_mem {r p : Place} {l : List Place} (hr : r.node.Numbered) (hl : l ⊆ r.all)
    (hp : p ∈ r.all) (hnot : p ∉ l) : l.find? (fun q => q.node.id == p.node.id) = none := by
  rw [List.find?_eq_none]
  intro q hq hid
  exact hnot (eq_of_id_eq hr (hl hq) hp (by simpa using hid) ▸ hq)

theorem find?_eq_some {r p : Place} (hr : r.node.Numbered) (hp : p ∈ r.all) :
    r.find? p.node.id = some p :=
  find?_of_mem hr (List.Subset.refl _) hp

theorem mem_of_find? {r p : Place} {i : Nat} (h : r.find? i = some p) :
    p ∈ r.all ∧ p.node.id = i :=
  ⟨List.mem_of_find?_eq_some h, by simpa using List.find?_some h⟩

end Place

/-! ## What lies below a place -/

namespace Node

/-- A place among siblings is one of them or lies below one of them. -/
theorem mem_placesAmong {above : List Level} {before ns : List Node} {p : Place}
    (h : p ∈ placesAmong above before ns) :
    ∃ l n r, ns = l ++ n :: r ∧ p ∈ Place.all ⟨⟨n, l.reverse ++ before, r⟩, above⟩ := by
  induction ns generalizing before with
  | nil => simp [placesAmong] at h
  | cons n r ih =>
      rw [placesAmong] at h
      rcases List.mem_cons.mp h with rfl | h
      · exact ⟨[], n, r, rfl, List.mem_cons_self⟩
      · rcases List.mem_append.mp h with h | h
        · exact ⟨[], n, r, rfl, List.mem_cons_of_mem _ h⟩
        · obtain ⟨l, m, s, hs, hp⟩ := ih h
          refine ⟨n :: l, m, s, by rw [hs]; rfl, ?_⟩
          simpa using hp

/-- One of several siblings, and everything below it, is among their places. -/
theorem all_sublist_placesAmong (above : List Level) (before l : List Node) (n : Node)
    (r : List Node) :
    (Place.all ⟨⟨n, l.reverse ++ before, r⟩, above⟩).Sublist
      (placesAmong above before (l ++ n :: r)) := by
  induction l generalizing before with
  | nil =>
      rw [List.nil_append, placesAmong]
      exact List.Sublist.cons_cons _ (List.sublist_append_left ..)
  | cons m l ih =>
      rw [List.cons_append, placesAmong]
      refine List.Sublist.cons _ (List.Sublist.trans ?_ (List.sublist_append_right ..))
      simpa using ih (m :: before)

/-- What lies below a place among siblings lies among them too, in the same order. -/
theorem inside_sublist_placesBelow (n : Node) :
    ∀ {before after : List Node} {above : List Level} {p : Place},
      p ∈ placesBelow before after above n →
        p.all.Sublist (placesBelow before after above n) := by
  induction n using induct with
  | leaf i k s => intro _ _ _ p hp; simp [placesBelow] at hp
  | element i h cs ih =>
      intro before after above p hp
      rw [placesBelow] at hp ⊢
      obtain ⟨l, n, r, rfl, hp⟩ := mem_placesAmong hp
      refine List.Sublist.trans ?_ (all_sublist_placesAmong _ _ l n r)
      rcases List.mem_cons.mp hp with rfl | hp
      · exact List.Sublist.refl _
      · exact List.Sublist.cons _ (ih n (by simp) hp)

end Node

namespace Place

/-- The places at and below a place of a page are places of the page, in the same order. -/
theorem all_sublist {r p : Place} (hp : p ∈ r.all) : p.all.Sublist r.all := by
  rcases List.mem_cons.mp hp with rfl | hp
  · exact List.Sublist.refl _
  · exact List.Sublist.cons _ (Node.inside_sublist_placesBelow r.node hp)

theorem inside_subset {r p : Place} (hp : p ∈ r.all) : p.inside ⊆ r.inside := by
  intro q hq
  rcases List.mem_cons.mp hp with rfl | hp
  · exact hq
  · exact (Node.inside_sublist_placesBelow r.node hp).subset (List.mem_cons_of_mem _ hq)

/-- A place does not lie below itself, since its number would occur twice. -/
theorem not_mem_inside {p : Place} (hp : p.node.Numbered) : p ∉ p.inside := by
  rw [Node.Numbered, ← all_ids, all, List.map_cons, List.nodup_cons] at hp
  exact fun h => hp.1 (List.mem_map_of_mem (f := fun q : Place => q.node.id) h)

/-- A place of a numbered page holds a numbered node. -/
theorem numbered_of_mem {r p : Place} (hr : r.node.Numbered) (hp : p ∈ r.all) :
    p.node.Numbered := by
  rw [Node.Numbered, ← all_ids] at hr ⊢
  exact ((all_sublist hp).map _).nodup hr

end Place

end StickerPages.Markup
