import StickerPages.Proofs.Numbering

/-!
# Document order puts the outer element first

A place knows the elements around it, innermost first. `Place.outer` turns them into places of the
page. Going through a page in document order one comes by exactly these before one comes to the
place itself, and outermost first: that is `Place.filter_holding`, and it is the reason why, of
several visitors that touch a node from the elements around it, the innermost has the last word.

The last part goes the other way: the children of a place and its siblings are nodes of the page
too, and their places have the surroundings that one expects.
-/

namespace StickerPages.Markup

/-- The places of nested elements, innermost first. -/
def Level.places : List Level → List Place
  | [] => []
  | l :: r => ⟨l, r⟩ :: places r

namespace Place

/-- The places of the elements around, innermost first. -/
def outer (p : Place) : List Place :=
  Level.places p.above

/-- The place's node, or something below it, has this number. -/
def holding (i : Nat) (q : Place) : Bool :=
  decide (i ∈ q.node.ids)

theorem holding_self (p : Place) : holding p.node.id p = true := by
  simp [holding, Node.id_mem_ids]

theorem holding_of_mem_all {p q : Place} (h : p ∈ q.all) : holding p.node.id q = true := by
  rw [holding, decide_eq_true_iff, ← all_ids]
  exact List.mem_map_of_mem (f := fun r : Place => r.node.id) h

theorem exists_mem_all_of_holding {q : Place} {i : Nat} (h : holding i q = true) :
    ∃ p ∈ q.all, p.node.id = i := by
  rw [holding, decide_eq_true_iff, ← all_ids] at h
  exact List.mem_map.mp h

end Place

namespace Node

theorem placesBelow_ids (before after : List Node) (above : List Level) (n : Node) :
    (placesBelow before after above n).map (·.node.id) = n.descendants.map Node.id :=
  Place.inside_ids ⟨⟨n, before, after⟩, above⟩

theorem ids_eq (n : Node) : n.ids = n.id :: n.descendants.map Node.id := by
  rw [ids, nodes_eq, List.map_cons]

/-- Nothing among the places of some trees holds a number that none of the trees has. -/
theorem filter_holding_eq_nil {i : Nat} {ps : List Place} {is : List Nat}
    (hps : ∀ q ∈ ps, q.node.ids ⊆ is) (hi : i ∉ is) : ps.filter (Place.holding i) = [] := by
  rw [List.filter_eq_nil_iff]
  intro q hq
  simpa [Place.holding] using fun h => hi (hps q hq h)

theorem ids_subset_of_mem_placesBelow {before after : List Node} {above : List Level} {n : Node}
    {q : Place} (h : q ∈ placesBelow before after above n) :
    q.node.ids ⊆ n.descendants.map Node.id := by
  rw [← placesBelow_ids before after above n, ← Place.all_ids]
  exact List.map_subset _ (inside_sublist_placesBelow n h).subset

theorem ids_subset_of_mem_placesAmong {above : List Level} {before ns : List Node} {q : Place}
    (h : q ∈ placesAmong above before ns) : q.node.ids ⊆ idsOfAll ns := by
  obtain ⟨l, n, r, rfl, hq⟩ := mem_placesAmong h
  have hn : q.node.ids ⊆ n.ids := by
    rcases List.mem_cons.mp hq with rfl | hq
    · exact List.Subset.refl _
    · rw [ids_eq n]
      exact fun x hx => List.mem_cons_of_mem _ (ids_subset_of_mem_placesBelow hq hx)
  rw [idsOfAll_append, idsOfAll_cons]
  exact fun x hx => List.mem_append_right _ (List.mem_append_left _ (hn hx))

/-- Among the siblings of one element: what holds a place, behind what holds the siblings, is the
way down to the place. The hypothesis is the same for what lies below one sibling. -/
theorem filter_holding_placesAmong {above : List Level} {p : Place} (ns : List Node)
    (below : ∀ n ∈ ns, ∀ (front behind : List Node), n.Numbered →
      p ∈ placesBelow front behind above n →
        (Level.places (⟨n, front, behind⟩ :: above)).reverse ++
            (placesBelow front behind above n).filter (Place.holding p.node.id) =
          p.outer.reverse ++ [p]) :
    ∀ front : List Node, (idsOfAll ns).Nodup → p ∈ placesAmong above front ns →
      (Level.places above).reverse ++
          (placesAmong above front ns).filter (Place.holding p.node.id) =
        p.outer.reverse ++ [p] := by
  induction ns with
  | nil => intro front _ hp; simp [placesAmong] at hp
  | cons n r ih =>
      intro front hnd hp
      rw [idsOfAll_cons, List.nodup_append] at hnd
      obtain ⟨hn, hr, hdisj⟩ := hnd
      have hfront := hn
      rw [ids_eq, List.nodup_cons] at hfront
      rw [placesAmong] at hp ⊢
      rw [List.filter_cons, List.filter_append]
      rcases List.mem_cons.mp hp with rfl | hp
      · -- the place is the first of the siblings
        rw [if_pos (Place.holding_self _),
          filter_holding_eq_nil (fun q hq => ids_subset_of_mem_placesBelow hq) hfront.1,
          filter_holding_eq_nil (fun q hq => ids_subset_of_mem_placesAmong hq)
            (fun h => hdisj _ (id_mem_ids n) _ h rfl)]
        rfl
      · rcases List.mem_append.mp hp with hp | hp
        · -- it lies below the first
          have hid : p.node.id ∈ n.ids := by
            rw [ids_eq]
            exact List.mem_cons_of_mem _ (ids_subset_of_mem_placesBelow hp (id_mem_ids _))
          have hhold : Place.holding p.node.id ⟨⟨n, front, r⟩, above⟩ = true := by
            simpa [Place.holding] using hid
          rw [if_pos hhold, filter_holding_eq_nil (fun q hq => ids_subset_of_mem_placesAmong hq)
            (fun h => hdisj _ hid _ h rfl), List.append_nil,
            ← below n List.mem_cons_self front r hn hp, Level.places, List.reverse_cons,
            List.append_assoc]
          rfl
        · -- it lies at or below a later one
          have hid : p.node.id ∈ idsOfAll r := ids_subset_of_mem_placesAmong hp (id_mem_ids _)
          have hnot : p.node.id ∉ n.ids := fun h => hdisj _ h _ hid rfl
          have hhold : ¬ Place.holding p.node.id ⟨⟨n, front, r⟩, above⟩ = true := by
            simpa [Place.holding] using hnot
          have hbelow : p.node.id ∉ n.descendants.map Node.id := by
            rw [ids_eq] at hnot
            exact fun h => hnot (List.mem_cons_of_mem _ h)
          rw [if_neg hhold,
            filter_holding_eq_nil (fun q hq => ids_subset_of_mem_placesBelow hq) hbelow,
            List.nil_append]
          exact ih (fun m hm => below m (List.mem_cons_of_mem _ hm)) (n :: front) hr hp

theorem filter_holding_placesBelow (n : Node) :
    ∀ {p : Place} {above : List Level} (front behind : List Node), n.Numbered →
      p ∈ placesBelow front behind above n →
        (Level.places (⟨n, front, behind⟩ :: above)).reverse ++
            (placesBelow front behind above n).filter (Place.holding p.node.id) =
          p.outer.reverse ++ [p] := by
  induction n using induct with
  | leaf i k s => intro _ _ _ _ _ hp; simp [placesBelow] at hp
  | element i h cs ih =>
      intro p above front behind hn hp
      rw [Numbered, ids_element, List.nodup_cons] at hn
      rw [placesBelow] at hp ⊢
      exact filter_holding_placesAmong cs (fun c hc front behind hcn hcp =>
        ih c hc front behind hcn hcp) [] hn.2 hp

end Node

namespace Place

/-- **In document order, the places that hold a place are those around it, outermost first, and then
the place itself.** -/
theorem filter_holding {n : Node} (hn : n.Numbered) {p : Place} (hp : p ∈ (top n).all) :
    (top n).all.filter (holding p.node.id) = p.outer.reverse ++ [p] := by
  rcases List.mem_cons.mp hp with rfl | hp
  · have hid : n.id ∉ n.descendants.map Node.id := by
      have h := hn
      rw [Node.Numbered, Node.ids_eq, List.nodup_cons] at h
      exact h.1
    have hnil : (top n).inside.filter (holding (top n).node.id) = [] :=
      Node.filter_holding_eq_nil (fun q hq => Node.ids_subset_of_mem_placesBelow hq) hid
    rw [all, List.filter_cons, if_pos (holding_self _), hnil]
    rfl
  · have hhold : holding p.node.id (top n) = true := holding_of_mem_all (List.mem_cons_of_mem _ hp)
    rw [all, List.filter_cons, if_pos hhold]
    exact Node.filter_holding_placesBelow n [] [] hn hp

theorem above_length_of_mem_places {ls : List Level} {q : Place} (h : q ∈ Level.places ls) :
    q.above.length < ls.length := by
  induction ls with
  | nil => simp [Level.places] at h
  | cons l r ih =>
      rw [Level.places] at h
      rcases List.mem_cons.mp h with rfl | h
      · exact Nat.lt_succ_self _
      · exact Nat.lt_succ_of_lt (ih h)

/-- Each of the levels around a place is the place of an element around it. -/
theorem exists_outer {p : Place} {l : Level} (h : l ∈ p.above) : ∃ r, ⟨l, r⟩ ∈ p.outer := by
  have hlevel (ls : List Level) : l ∈ ls → ∃ r, (⟨l, r⟩ : Place) ∈ Level.places ls := by
    induction ls with
    | nil => exact fun h => absurd h List.not_mem_nil
    | cons a r ih =>
        intro h
        rw [Level.places]
        rcases List.mem_cons.mp h with rfl | h
        · exact ⟨r, List.mem_cons_self⟩
        · obtain ⟨r', hr'⟩ := ih h
          exact ⟨r', List.mem_cons_of_mem _ hr'⟩
  exact hlevel p.above h

/-- The elements around a place are places of the page, and the place lies below each of them. -/
theorem mem_of_mem_outer {n : Node} (hn : n.Numbered) {p q : Place} (hp : p ∈ (top n).all)
    (hq : q ∈ p.outer) : q ∈ (top n).all ∧ p ∈ q.inside := by
  have hmem : q ∈ p.outer.reverse ++ [p] := List.mem_append_left _ (List.mem_reverse.mpr hq)
  rw [← filter_holding hn hp, List.mem_filter] at hmem
  obtain ⟨hqn, hhold⟩ := hmem
  obtain ⟨p', hp', hid⟩ := exists_mem_all_of_holding hhold
  have : p' = p := eq_of_id_eq hn ((all_sublist hqn).subset hp') hp hid
  subst this
  rcases List.mem_cons.mp hp' with rfl | hin
  · exact absurd (above_length_of_mem_places hq) (Nat.lt_irrefl _)
  · exact ⟨hqn, hin⟩

/-- Conversely, what a place lies below is one of the elements around it. -/
theorem mem_outer_of_mem_inside {n : Node} (hn : n.Numbered) {p q : Place}
    (hq : q ∈ (top n).all) (hp : p ∈ q.inside) : q ∈ p.outer := by
  have hpn : p ∈ (top n).all := (all_sublist hq).subset (List.mem_cons_of_mem _ hp)
  have hmem : q ∈ (top n).all.filter (holding p.node.id) :=
    List.mem_filter.mpr ⟨hq, holding_of_mem_all (List.mem_cons_of_mem _ hp)⟩
  rw [filter_holding hn hpn] at hmem
  rcases List.mem_append.mp hmem with h | h
  · exact List.mem_reverse.mp h
  · rw [List.mem_singleton.mp h] at hp
    exact absurd hp (not_mem_inside (numbered_of_mem hn hpn))

/-! ## Children and siblings -/

/-- A child of a place stands on the page, right inside it. -/
theorem exists_child {r p : Place} (hp : p ∈ r.all) {c : Node} (hc : c ∈ p.node.children) :
    ∃ q ∈ r.all, q.node = c ∧ q.above = p.toLevel :: p.above := by
  obtain ⟨⟨n, before, after⟩, above⟩ := p
  cases n with
  | leaf i k s => exact absurd hc List.not_mem_nil
  | element i h cs =>
      obtain ⟨front, behind, hcs⟩ := List.append_of_mem hc
      have hsub := Node.all_sublist_placesAmong (⟨.element i h cs, before, after⟩ :: above) []
        front c behind
      rw [← hcs] at hsub
      have hin := (all_sublist hp).subset (List.mem_cons_of_mem _ (hsub.subset List.mem_cons_self))
      exact ⟨_, hin, rfl, rfl⟩

end Place

/-- What stands below a node stands among the children of the element right around it. -/
theorem Node.children_above (n : Node) :
    ∀ {before after : List Node} {above : List Level} {p : Place},
      p ∈ placesBelow before after above n →
        ∃ l r, p.above = l :: r ∧ l.node.children = p.before.reverse ++ p.node :: p.after := by
  induction n using induct with
  | leaf i k s => intro _ _ _ p hp; simp [placesBelow] at hp
  | element i h cs ih =>
      intro before after above p hp
      rw [placesBelow] at hp
      obtain ⟨l, n, r, rfl, hp⟩ := mem_placesAmong hp
      rcases List.mem_cons.mp hp with rfl | hp
      · exact ⟨_, _, rfl, by simp [children]⟩
      · exact ih n (by simp) hp

namespace Place

/-- The element right around a place is the innermost one, and the place stands among its children.
-/
theorem children_of_above {n : Node} {p : Place} (hp : p ∈ (top n).all) {l : Level}
    {r : List Level} (habove : p.above = l :: r) :
    l.node.children = p.before.reverse ++ p.node :: p.after := by
  rcases List.mem_cons.mp hp with rfl | hp
  · cases habove
  · obtain ⟨l', r', h', hchildren⟩ := Node.children_above n hp
    rw [habove] at h'
    cases h'
    exact hchildren

/-- A sibling of a place stands on the page, with the same elements around it. -/
theorem exists_sibling {n : Node} (hn : n.Numbered) {p : Place} (hp : p ∈ (top n).all) {m : Node}
    (hm : m ∈ p.before ∨ m ∈ p.after) :
    ∃ q ∈ (top n).all, q.node = m ∧ q.above = p.above := by
  cases habove : p.above with
  | nil =>
      rcases List.mem_cons.mp hp with rfl | hin
      · rcases hm with hm | hm <;> exact absurd hm List.not_mem_nil
      · obtain ⟨l, r, h, _⟩ := Node.children_above n hin
        rw [habove] at h
        cases h
  | cons l r =>
      have houter : (⟨l, r⟩ : Place) ∈ p.outer := by
        rw [outer, habove, Level.places]
        exact List.mem_cons_self
      refine exists_child (p := ⟨l, r⟩) (mem_of_mem_outer hn hp houter).1 ?_
      rw [children_of_above hp habove]
      rcases hm with hm | hm
      · exact List.mem_append_left _ (List.mem_reverse.mpr hm)
      · exact List.mem_append_right _ (List.mem_cons_of_mem _ hm)

end Place

end StickerPages.Markup
