import StickerPages.Live.Change
import StickerPages.Proofs.Gaps
import StickerPages.Proofs.Reading

/-!
# A changing page stays numbered

Whatever is done to a page, each number points at one node: a node that leaves the page takes its
number along into a loose tree, and a node that comes in takes a number that was never given. The
proof counts heads. An operation changes the children of one element, so it fills a gap
(`Proofs/Gaps.lean`), and the census of the forest afterwards is the census before with the new
nodes added, in some order.

The second question about an operation is whether it did anything. A forest keeps its trees when
nothing came in, or when the target is no element; otherwise the target is an element, and nodes
came or went.
-/

namespace StickerPages.Live

open Markup Node

namespace Forest

variable {f f' : Forest} {i t : Nat} {p : Place}

/-- All nodes, on the page and off it. -/
def nodes (f : Forest) : List Node :=
  f.trees.flatMap Node.nodes

/-- The numbers of all nodes. -/
def ids (f : Forest) : List Nat :=
  idsOfAll f.trees

/-- Every number with the element that bears it, if one does. -/
def census (f : Forest) : List (Nat × Option Element) :=
  censusOfAll f.trees

/-- No number is borne twice, and the next one is new. -/
def Numbered (f : Forest) : Prop :=
  Drawn 0 f.nextId f.ids

/-- The number is an element's. -/
def HasElement (f : Forest) (i : Nat) : Prop :=
  ∃ h, (i, some h) ∈ f.census

theorem map_fst_census (f : Forest) : f.census.map Prod.fst = f.ids :=
  map_fst_censusOfAll f.trees

theorem mem_census {e : Nat × Option Element} :
    e ∈ f.census ↔ ∃ n ∈ f.nodes, (n.id, n.head?) = e := by
  rw [show f.census = f.nodes.map fun n : Node => (n.id, n.head?) by
    rw [nodes, List.map_flatMap]; rfl]
  exact List.mem_map

theorem hasElement_iff : f.HasElement i ↔ ∃ h cs, .element i h cs ∈ f.nodes := by
  constructor
  · rintro ⟨h, hm⟩
    obtain ⟨n, hn, he⟩ := mem_census.mp hm
    cases n with
    | leaf j k s => cases he
    | element j h' cs =>
        cases he
        exact ⟨h, cs, hn⟩
  · rintro ⟨h, cs, hn⟩
    exact ⟨h, mem_census.mpr ⟨_, hn, rfl⟩⟩

theorem Numbered.tree (hf : f.Numbered) {n : Node} (hn : n ∈ f.trees) : n.Numbered :=
  numbered_of_mem_trees hf.nodup hn

theorem Numbered.page (hf : f.Numbered) : f.page.Numbered :=
  hf.tree List.mem_cons_self

/-- A page just read is numbered. -/
theorem numbered_ofMarkup (markup : String) : (ofMarkup markup).Numbered := by
  have h := (read_drawn 0 markup).1
  rw [Numbered, ids, trees]
  simpa [ofMarkup] using h

/-! ## Places in a forest -/

theorem place?_some (h : f.place? i = some p) :
    ∃ n ∈ f.trees, p ∈ (Place.top n).all ∧ p.node.id = i := by
  obtain ⟨n, hn, hp⟩ := List.exists_of_findSome?_eq_some h
  exact ⟨n, hn, Place.mem_of_find? hp⟩

/-- A place of a numbered forest is found by its number. -/
theorem place?_of_mem (hf : f.Numbered) {n : Node} (hn : n ∈ f.trees)
    (hp : p ∈ (Place.top n).all) : f.place? p.node.id = some p := by
  have hfind := Place.find?_eq_some (hf.tree hn : (Place.top n).node.Numbered) hp
  cases h : f.place? p.node.id with
  | none =>
      rw [place?, List.findSome?_eq_none_iff] at h
      rw [h n hn] at hfind
      cases hfind
  | some q =>
      obtain ⟨m, hm, hq, hid⟩ := place?_some h
      have hin {r : Place} {k : Node} (hr : r ∈ (Place.top k).all) : r.node.id ∈ k.ids :=
        mem_ids_of_mem_nodes (Place.node_mem_nodes hr)
      have hmn : m = n := eq_of_mem_ids hf.nodup hm hn (hin hq) (hid ▸ hin hp)
      subst hmn
      rw [Place.eq_of_id_eq (hf.tree hn : (Place.top m).node.Numbered) hq hp hid]

theorem node_mem_nodes (h : f.place? i = some p) : p.node ∈ f.nodes := by
  obtain ⟨n, hn, hp, _⟩ := place?_some h
  exact List.mem_flatMap.mpr ⟨n, hn, Place.node_mem_nodes hp⟩

/-- Every number of an element is found, and an element is found there. -/
theorem HasElement.place? (hf : f.Numbered) (h : f.HasElement i) :
    ∃ p h cs, f.place? i = some p ∧ p.node = .element i h cs := by
  obtain ⟨e, cs, hm⟩ := hasElement_iff.mp h
  obtain ⟨n, hn, hin⟩ := List.mem_flatMap.mp hm
  obtain ⟨p, hp, hnode⟩ := Place.exists_of_mem_nodes hin
  have hid : p.node.id = i := by
    rw [hnode]
    rfl
  exact ⟨p, e, cs, hid ▸ place?_of_mem hf hn hp, hnode⟩

/-- A node with an element around it is one of that element's children. -/
theorem parent?_eq_some (hf : f.Numbered) (h : f.parent? i = some t) :
    ∃ p e cs, f.place? i = some p ∧ p.node.id = i ∧ p.node ∈ cs ∧ .element t e cs ∈ f.nodes := by
  unfold parent? at h
  cases hp : f.place? i with
  | none =>
      rw [hp] at h
      cases h
  | some p =>
      obtain ⟨n, hn, hpn, hid⟩ := place?_some hp
      rw [hp, Option.bind_some, Place.parent?] at h
      cases habove : p.above with
      | nil =>
          rw [habove] at h
          cases h
      | cons l r =>
          rw [habove] at h
          have ht : l.node.id = t := by simpa using h
          have houter : (⟨l, r⟩ : Place) ∈ p.outer := by
            rw [Place.outer, habove, Level.places]
            exact List.mem_cons_self
          have hl := Place.node_mem_nodes (Place.mem_of_mem_outer (hf.tree hn) hpn houter).1
          have hmem : p.node ∈ l.node.children := by
            rw [Place.children_of_above hpn habove]
            exact List.mem_append_right _ List.mem_cons_self
          cases hnode : l.node with
          | leaf j k s =>
              rw [hnode] at hmem
              exact absurd hmem List.not_mem_nil
          | element j e cs =>
              rw [hnode] at ht hmem hl
              cases ht
              exact ⟨p, e, cs, rfl, hid, hmem, List.mem_flatMap.mpr ⟨n, hn, hl⟩⟩

/-! ## Later forests -/

/-- `f'` may come after `f`: it is numbered, and elements have remained elements. -/
structure Later (f f' : Forest) : Prop where
  numbered : f'.Numbered
  elements : ∀ i, f.HasElement i → f'.HasElement i

namespace Later

theorem refl (hf : f.Numbered) : Later f f :=
  ⟨hf, fun _ h => h⟩

theorem trans {f'' : Forest} (h : Later f f') (h' : Later f' f'') : Later f f'' :=
  ⟨h'.numbered, fun i hi => h'.elements i (h.elements i hi)⟩

/-- Nodes that come in bring numbers drawn since. -/
theorem of_census (hf : f.Numbered) (new : List (Nat × Option Element))
    (hcensus : f'.census.Perm (f.census ++ new)) (hle : f.nextId ≤ f'.nextId)
    (hnew : Drawn f.nextId f'.nextId (new.map Prod.fst)) : Later f f' where
  numbered := by
    refine (Drawn.append hf hnew (Nat.zero_le _) hle).perm ?_
    have h := hcensus.map Prod.fst
    rw [List.map_append, map_fst_census, map_fst_census] at h
    exact h
  elements := by
    rintro i ⟨h, hm⟩
    exact ⟨h, hcensus.mem_iff.mpr (List.mem_append_left _ hm)⟩

theorem of_trees (hf : f.Numbered) (htrees : f'.trees = f.trees) (hle : f.nextId ≤ f'.nextId) :
    Later f f' := by
  refine of_census hf [] ?_ hle (Drawn.nil _ _)
  rw [List.append_nil, census, htrees]
  exact List.Perm.refl _

/-- Nodes that only change their place bring nothing. -/
theorem of_perm (hf : f.Numbered) (hcensus : f'.census.Perm f.census)
    (hnext : f'.nextId = f.nextId) : Later f f' := by
  refine of_census hf [] ?_ (Nat.le_of_eq hnext.symm) (Drawn.nil _ _)
  rwa [List.append_nil]

end Later

/-! ## Changing the children of one element -/

/-- What a change of children comes to: the old children go and the new ones come. -/
theorem census_modify (hf : f.Numbered) {e : Element} {cs : List Node}
    (hel : .element t e cs ∈ f.nodes) (F : List Node → List Node) :
    (censusOfAll (f.trees.map (modifyChildren t F)) ++ censusOfAll cs).Perm
      (f.census ++ censusOfAll (F cs)) := by
  obtain ⟨outside, fill, hgap⟩ := exists_gap hf.nodup hel
  have hold := hgap.census cs
  have hnew := hgap.census (F cs)
  rw [hgap.fill_self] at hold
  rw [hgap.modify, census]
  -- both censuses are what is outside the gap and what fills it, so counting settles it
  rw [List.perm_iff_count] at hold hnew ⊢
  intro x
  have h1 := hold x
  have h2 := hnew x
  simp only [List.count_append] at h1 h2 ⊢
  omega

/-- Where no element bears the number, no tree is changed. -/
theorem trees_modify_of_no_element (h : ¬ f.HasElement t) (F : List Node → List Node) :
    f.trees.map (modifyChildren t F) = f.trees := by
  refine (List.map_congr_left fun n hn => ?_).trans (List.map_id _)
  exact modifyChildren_of_no_bearer F n fun e he =>
    h ⟨e, List.mem_flatMap.mpr ⟨n, hn, he⟩⟩

theorem nodup_children (hf : f.Numbered) {e : Element} {cs : List Node}
    (hel : .element t e cs ∈ f.nodes) : (idsOfAll cs).Nodup := by
  obtain ⟨outside, fill, hgap⟩ := exists_gap hf.nodup hel
  have h := (hgap.census cs).map Prod.fst
  rw [hgap.fill_self, List.map_append, map_fst_censusOfAll, map_fst_censusOfAll] at h
  exact (List.nodup_append.mp (h.nodup_iff.mp hf.nodup)).2.1

theorem later_detach (hf : f.Numbered) (i : Nat) : Later f (f.detach i) := by
  unfold detach
  cases hparent : f.parent? i with
  | none => exact Later.refl hf
  | some t =>
      obtain ⟨p, e, cs, hp, hid, hmem, hel⟩ := parent?_eq_some hf hparent
      rw [show f.node? i = some p.node by rw [node?, hp]; rfl]
      refine Later.of_perm hf ?_ rfl
      -- the node leaves its siblings and joins the loose trees
      obtain ⟨l, r, rfl, hl, hr⟩ :=
        split_of_mem (nodup_children hf hel) hmem (hid ▸ id_mem_ids p.node)
      have hkept : ((l ++ p.node :: r).filter fun c => c.id != i) = l ++ r := by
        rw [List.filter_append, List.filter_cons, filter_of_not_mem hl, filter_of_not_mem hr]
        simp [hid]
      have hcensus := census_modify hf hel fun cs => cs.filter fun c => c.id != i
      show (censusOfAll (f.trees.map _ ++ [p.node])).Perm f.census
      rw [hkept] at hcensus
      rw [List.perm_iff_count] at hcensus ⊢
      intro x
      have h := hcensus x
      simp only [censusOfAll_append, censusOfAll_cons, censusOfAll_nil, List.count_append,
        List.count_nil] at h ⊢
      omega

theorem later_detachAll (ids : List Nat) :
    ∀ {f : Forest}, f.Numbered → Later f (f.detachAll ids) := by
  induction ids with
  | nil => exact fun hf => Later.refl hf
  | cons i r ih =>
      intro f hf
      have h := later_detach hf i
      exact h.trans (ih h.numbered)

/-- The nodes of a fragment are new, and nothing else has changed. -/
theorem fragment_spec (f : Forest) (markup : String) :
    (f.fragment markup).2.trees = f.trees ∧ f.nextId ≤ (f.fragment markup).2.nextId ∧
      Drawn f.nextId (f.fragment markup).2.nextId (idsOfAll (f.fragment markup).1) := by
  obtain ⟨hdrawn, hle⟩ := read_drawn f.nextId markup
  refine ⟨rfl, hle, ?_⟩
  rw [ids_eq] at hdrawn
  rw [show idsOfAll (f.fragment markup).1 =
      (read f.nextId markup).1.descendants.map Node.id by
    rw [descendants, nodesOfAll_eq, List.map_flatMap]; rfl]
  exact hdrawn.sublist (List.sublist_cons_self _ _)

/-- Putting a fragment among the children of an element. -/
theorem later_put (hf : f.Numbered) (t : Nat) (markup : String) {F : List Node → List Node}
    (hF : ∀ cs, (F cs).Perm (cs ++ (f.fragment markup).1)) :
    Later f ((f.fragment markup).2.mapTrees fun n => n.modifyChildren t F) := by
  obtain ⟨htrees, hle, hdrawn⟩ := fragment_spec f markup
  by_cases ht : f.HasElement t
  · obtain ⟨e, cs, hel⟩ := hasElement_iff.mp ht
    refine Later.of_census hf (censusOfAll (f.fragment markup).1) ?_ hle ?_
    · -- the element's children are the old ones and the fragment, in some order
      have hcensus := census_modify hf hel F
      have hnew := (hF cs).flatMap_right Node.census
      show (censusOfAll ((f.fragment markup).2.trees.map _)).Perm _
      rw [htrees]
      rw [← censusOfAll, ← censusOfAll, censusOfAll_append] at hnew
      rw [List.perm_iff_count] at hcensus hnew ⊢
      intro x
      have h1 := hcensus x
      have h2 := hnew x
      simp only [List.count_append] at h1 h2 ⊢
      omega
    · rwa [map_fst_censusOfAll]
  · have hsame :
        ((f.fragment markup).2.mapTrees fun n => n.modifyChildren t F).trees = f.trees := by
      show (f.fragment markup).2.trees.map _ = _
      rw [htrees, trees_modify_of_no_element ht]
    exact Later.of_trees hf hsame hle

/-- Putting nothing there, or pointing at no element, leaves the trees as they are. -/
theorem trees_put (t : Nat) (markup : String) {F : List Node → List Node}
    (hF : (f.fragment markup).1 = [] → ∀ cs, F cs = cs)
    (h : ¬ (f.HasElement t ∧ (f.fragment markup).1 ≠ [])) :
    ((f.fragment markup).2.mapTrees fun n => n.modifyChildren t F).trees = f.trees := by
  show (f.fragment markup).2.trees.map _ = _
  rw [(fragment_spec f markup).1]
  by_cases ht : f.HasElement t
  · have hnil : (f.fragment markup).1 = [] := not_not.mp fun hne => h ⟨ht, hne⟩
    exact (List.map_congr_left fun n _ => modifyChildren_id t (hF hnil) n).trans (List.map_id _)
  · exact trees_modify_of_no_element ht F

theorem perm_insert (index : Nat) (cs ns : List Node) :
    (cs.take index ++ ns ++ cs.drop index).Perm (cs ++ ns) := by
  have h : (cs.take index ++ (ns ++ cs.drop index)).Perm
      (cs.take index ++ (cs.drop index ++ ns)) :=
    List.perm_append_comm.append_left _
  rwa [← List.append_assoc, ← List.append_assoc, List.take_append_drop] at h

/-! ## Replacing a text -/

theorem replaceByText_spec (hf : f.Numbered) {s : String} {new : Nat}
    (h : f.replaceByText i s = some (new, f')) :
    Later f f' ∧ new = f.nextId ∧ ∃ p t e cs, f.place? i = some p ∧ p.node ∈ cs ∧
      .element t e cs ∈ f.nodes ∧
      f'.trees = f.trees.map (modifyChildren t fun cs => cs.map (swap i new s)) ++ [p.node] := by
  unfold replaceByText at h
  cases hparent : f.parent? i with
  | none =>
      rw [hparent] at h
      cases h
  | some t =>
      obtain ⟨p, e, cs, hp, hid, hmem, hel⟩ := parent?_eq_some hf hparent
      rw [hparent, show f.node? i = some p.node by rw [node?, hp]; rfl] at h
      cases h
      refine ⟨?_, rfl, p, t, e, cs, hp, hmem, hel, rfl⟩
      refine Later.of_census hf [(f.nextId, none)] ?_ (Nat.le_succ _) ?_
      · obtain ⟨l, r, rfl, hl, hr⟩ :=
          split_of_mem (nodup_children hf hel) hmem (hid ▸ id_mem_ids p.node)
        have hpass {ms : List Node} (hms : i ∉ idsOfAll ms) : ms.map (swap i f.nextId s) = ms :=
          map_of_not_mem (fun _ h => swap_of_not_mem _ s h) hms
        have hswap : (l ++ p.node :: r).map (swap i f.nextId s) =
            l ++ .leaf f.nextId .plain s :: r := by
          rw [List.map_append, List.map_cons, hpass hl, hpass hr, swap, if_pos hid]
        have hcensus := census_modify hf hel fun cs => cs.map (swap i f.nextId s)
        show (censusOfAll (f.trees.map (modifyChildren t fun cs => cs.map (swap i f.nextId s)) ++
          [p.node])).Perm _
        rw [hswap] at hcensus
        rw [List.perm_iff_count] at hcensus ⊢
        intro x
        have h := hcensus x
        have hleaf : (Node.leaf f.nextId .plain s).census = [(f.nextId, none)] := rfl
        simp only [censusOfAll_append, censusOfAll_cons, censusOfAll_nil, hleaf, List.count_append,
          List.count_nil] at h ⊢
        omega
      · exact (Drawn.nil _ _).cons (Nat.le_refl _)

end Forest

end StickerPages.Live
