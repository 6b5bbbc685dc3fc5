import StickerPages.Proofs.Numbering

/-!
# Changes that leave the tree standing

Sweeping a page rewrites attributes, and replacing a text rewrites one leaf; neither moves, adds or
removes a node. A `Retouch` is such a change: what becomes of each element's head and of each leaf.
The places of a retouched page are the retouched places of the page, in the same order
(`Place.all_retouch`), so every question that layout asks of a place can be asked before or after.

`Node.modify` is a retouch of heads, and two retouches of heads in a row are one. This is how a
sweep, which changes a page many times over, comes to be a single change.
-/

namespace StickerPages.Markup

/-- What becomes of each element and of each leaf of a tree that is left standing. -/
structure Retouch where
  head : Nat → Element → Element
  leaf : Nat → TextKind → String → Nat × TextKind × String

namespace Retouch

/-- Changes elements only. -/
def heads (g : Nat → Element → Element) : Retouch :=
  ⟨g, fun i k s => (i, k, s)⟩

/-- Puts a new plain text, numbered `new`, in the place of the leaf numbered `old`. -/
def text (old new : Nat) (s : String) : Retouch :=
  ⟨fun _ h => h, fun i k t => if i = old then (new, .plain, s) else (i, k, t)⟩

end Retouch

namespace Node

mutual
/-- The tree after a retouch. -/
def retouch (r : Retouch) : Node → Node
  | .leaf i k s =>
    let t := r.leaf i k s
    .leaf t.1 t.2.1 t.2.2
  | .element i h cs => .element i (r.head i h) (retouchAll r cs)

/-- Several trees after a retouch. -/
def retouchAll (r : Retouch) : List Node → List Node
  | [] => []
  | n :: ns => n.retouch r :: retouchAll r ns
end

@[simp]
theorem retouchAll_eq (r : Retouch) (ns : List Node) : retouchAll r ns = ns.map (retouch r) := by
  induction ns with
  | nil => rfl
  | cons n ns ih => rw [retouchAll, ih, List.map_cons]

@[simp]
theorem modifyAll_eq (i : Nat) (f : Element → Element) (ns : List Node) :
    modifyAll i f ns = ns.map (modify i f) := by
  induction ns with
  | nil => rfl
  | cons n ns ih => rw [modifyAll, ih, List.map_cons]

/-- Changing the element of one number is a retouch. -/
theorem modify_eq_retouch (i : Nat) (f : Element → Element) (n : Node) :
    n.modify i f = n.retouch (.heads fun j h => if j = i then f h else h) := by
  induction n using induct with
  | leaf j k s => rfl
  | element j h cs ih =>
      rw [modify, retouch, modifyAll_eq, retouchAll_eq]
      congr 1
      exact List.map_congr_left ih

theorem retouch_heads_heads (f g : Nat → Element → Element) (n : Node) :
    (n.retouch (.heads f)).retouch (.heads g) = n.retouch (.heads fun i h => g i (f i h)) := by
  induction n using induct with
  | leaf j k s => rfl
  | element j h cs ih =>
      simp only [retouch, retouchAll_eq, List.map_map]
      congr 1
      exact List.map_congr_left ih

theorem retouch_nothing (n : Node) : n.retouch (.heads fun _ h => h) = n := by
  induction n using induct with
  | leaf j k s => rfl
  | element j h cs ih =>
      rw [retouch, retouchAll_eq]
      congr 1
      exact (List.map_congr_left ih).trans (List.map_id _)

/-- Two retouches that do the same to the nodes of a tree do the same to the tree. -/
theorem retouch_congr {r r' : Retouch} (n : Node) :
    (∀ i h cs, .element i h cs ∈ n.nodes → r.head i h = r'.head i h) →
      (∀ i k s, .leaf i k s ∈ n.nodes → r.leaf i k s = r'.leaf i k s) →
        n.retouch r = n.retouch r' := by
  induction n using induct with
  | leaf j k s =>
      intro _ hl
      simp only [retouch, hl j k s (self_mem_nodes _)]
  | element j h cs ih =>
      intro hh hl
      have below {c : Node} (hc : c ∈ cs) : c.nodes ⊆ (Node.element j h cs).nodes := by
        rw [nodes_element]
        exact fun m hm => List.mem_cons_of_mem _ (List.mem_flatMap.mpr ⟨c, hc, hm⟩)
      rw [retouch, retouch, retouchAll_eq, retouchAll_eq, hh j h cs (self_mem_nodes _)]
      congr 1
      refine List.map_congr_left fun c hc => ih c hc ?_ ?_
      · exact fun i h' cs' hm => hh i h' cs' (below hc hm)
      · exact fun i k s hm => hl i k s (below hc hm)

theorem children_retouch (r : Retouch) (n : Node) :
    (n.retouch r).children = n.children.map (retouch r) := by
  cases n with
  | leaf i k s => rfl
  | element i h cs => simp [retouch, children]

@[simp]
theorem id_retouch_heads (g : Nat → Element → Element) (n : Node) :
    (n.retouch (.heads g)).id = n.id := by
  cases n with
  | leaf i k s => rfl
  | element i h cs => rfl

end Node

/-! ## Places of a retouched page -/

/-- The level after a retouch. -/
def Level.retouch (r : Retouch) (l : Level) : Level :=
  ⟨l.node.retouch r, l.before.map (Node.retouch r), l.after.map (Node.retouch r)⟩

/-- The place after a retouch of all that it knows. -/
def Place.retouch (r : Retouch) (p : Place) : Place :=
  ⟨p.toLevel.retouch r, p.above.map (Level.retouch r)⟩

namespace Place

@[simp]
theorem node_retouch (r : Retouch) (p : Place) : (p.retouch r).node = p.node.retouch r := rfl

@[simp]
theorem above_retouch (r : Retouch) (p : Place) :
    (p.retouch r).above = p.above.map (Level.retouch r) := rfl

@[simp]
theorem before_retouch (r : Retouch) (p : Place) :
    (p.retouch r).before = p.before.map (Node.retouch r) := rfl

@[simp]
theorem after_retouch (r : Retouch) (p : Place) :
    (p.retouch r).after = p.after.map (Node.retouch r) := rfl

theorem top_retouch (r : Retouch) (n : Node) : (top n).retouch r = top (n.retouch r) := rfl

end Place

namespace Node

theorem placesBelow_retouch (r : Retouch) (n : Node) :
    ∀ (before after : List Node) (above : List Level),
      placesBelow (before.map (retouch r)) (after.map (retouch r)) (above.map (Level.retouch r))
          (n.retouch r) =
        (placesBelow before after above n).map (Place.retouch r) := by
  induction n using induct with
  | leaf i k s => intro _ _ _; rfl
  | element i h cs ih =>
      intro before after above
      rw [retouch, placesBelow, placesBelow, retouchAll_eq]
      -- the siblings in front accumulate, so the list is generalised together with them
      have among (outer : List Level) : ∀ (ns front : List Node), (∀ n ∈ ns, n ∈ cs) →
          placesAmong (outer.map (Level.retouch r)) (front.map (retouch r)) (ns.map (retouch r)) =
            (placesAmong outer front ns).map (Place.retouch r) := by
        intro ns
        induction ns with
        | nil => intro _ _; rfl
        | cons n ns ihns =>
            intro front hns
            have h1 := ih n (hns n List.mem_cons_self) front ns outer
            have h2 := ihns (n :: front) fun m hm => hns m (List.mem_cons_of_mem _ hm)
            rw [List.map_cons] at h2
            rw [List.map_cons, placesAmong, placesAmong, List.map_cons, List.map_append, h1, h2]
            rfl
      have := among (⟨.element i h cs, before, after⟩ :: above) cs [] fun _ hn => hn
      simpa [Level.retouch, retouch] using this

end Node

namespace Place

theorem inside_retouch (r : Retouch) (p : Place) :
    (p.retouch r).inside = p.inside.map (retouch r) :=
  Node.placesBelow_retouch r p.node p.before p.after p.above

/-- **The places of a retouched page are the retouched places of the page.** -/
theorem all_retouch (r : Retouch) (p : Place) : (p.retouch r).all = p.all.map (retouch r) := by
  rw [all, all, inside_retouch, List.map_cons]

theorem find?_retouch_heads (g : Nat → Element → Element) (p : Place) (i : Nat) :
    (p.retouch (.heads g)).find? i = (p.find? i).map (retouch (.heads g)) := by
  rw [find?, find?, all_retouch, List.find?_map]
  congr 2
  funext q
  simp

end Place

/-- The nodes of a retouched tree are the retouched nodes of the tree. -/
theorem Node.nodes_retouch (r : Retouch) (n : Node) :
    (n.retouch r).nodes = n.nodes.map (Node.retouch r) := by
  have h := Place.all_nodes ((Place.top n).retouch r)
  rw [Place.all_retouch, List.map_map] at h
  calc (n.retouch r).nodes
      = (Place.top n).all.map ((·.node) ∘ Place.retouch r) := h.symm
    _ = ((Place.top n).all.map (·.node)).map (Node.retouch r) := by rw [List.map_map]; rfl
    _ = n.nodes.map (Node.retouch r) := by rw [Place.all_nodes]; rfl

/-- Retouching heads keeps every number. -/
theorem Node.ids_retouch_heads (g : Nat → Element → Element) (n : Node) :
    (n.retouch (.heads g)).ids = n.ids := by
  rw [ids, nodes_retouch, List.map_map, ids]
  exact List.map_congr_left fun m _ => id_retouch_heads g m

theorem Node.Numbered.retouch_heads {n : Node} (hn : n.Numbered) (g : Nat → Element → Element) :
    (n.retouch (.heads g)).Numbered := by
  rw [Numbered, ids_retouch_heads]
  exact hn

end StickerPages.Markup
