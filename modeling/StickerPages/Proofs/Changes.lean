import StickerPages.Live.Watcher
import StickerPages.Proofs.Forests
import StickerPages.Proofs.Texts

/-!
# Which changes matter

The watcher decides by the record alone whether a change matters, and it decides when it is told,
which may be long after. Two things must hold for that to be safe. A change that it passes over must
leave every verdict as it was; and a record that it would mind must still be one that it minds when
other changes, which it passes over, have come in between.

`Effect` says what a record can mean for the forest: nodes came or went at an element, a text was
replaced, or nothing happened. `Weighty` is what makes the watcher mind a record, and
`Effect.weighty_or_harmless` is the answer to both questions: a change is weighty, or it is
harmless, and then it neither unsettles the page nor takes the weight from an earlier record.
-/

namespace StickerPages.Live

open Markup Layout

/-- A change that the document offers to its users. -/
inductive Mutation where
  | append (target : Nat) (markup : String)
  | insert (target index : Nat) (markup : String)
  | replaceChildren (target : Nat) (markup : String)
  | remove (target : Nat)
  | setText (target : Nat) (text : String)
deriving Repr

namespace Mutation

/-- The forest afterwards and the record, if there is one. -/
def change (f : Forest) : Mutation → Option (Forest × Change)
  | .append t markup => some (f.appendMarkup t markup)
  | .insert t index markup => some (f.insertMarkup t index markup)
  | .replaceChildren t markup => some (f.replaceChildren t markup)
  | .remove t => (f.remove t).2.map fun c => ((f.remove t).1, c)
  | .setText t text => f.setText t text

/-- Only texts have their text replaced. -/
def Proper (f : Forest) : Mutation → Prop
  | .setText t _ => ∃ k s, f.node? t = some (.leaf t k s)
  | _ => True

end Mutation

/-- What a record can mean: the forest was `f` and has become `f'`. -/
inductive Effect (f f' : Forest) (c : Change) : Prop where
  /-- Nodes came or went. -/
  | nodes (target : f'.HasElement c.target) (some : c.added ≠ [] ∨ c.removed ≠ [])
  | nothing (same : f'.trees = f.trees)
  /-- A text was replaced by a new one. -/
  | text {i : Nat} {k : TextKind} {t s : String} {p : Place} (place : f.place? i = some p)
      (leaf : p.node = .leaf i k t) (target : c.target = f.nextId)
      (trees : f'.trees = f.trees.map (Node.retouch (.text i f.nextId s)) ++ [p.node])

/-! ## What each change means -/

section

variable {f f' : Forest} {c : Change} {m : Mutation} {t : Nat}

/-- Appending and inserting. -/
theorem effect_put (hf : f.Numbered) (t : Nat) (markup : String) {F : List Node → List Node}
    (hperm : ∀ cs, (F cs).Perm (cs ++ (f.fragment markup).1))
    (hnil : (f.fragment markup).1 = [] → ∀ cs, F cs = cs) :
    let f' := (f.fragment markup).2.mapTrees fun n => n.modifyChildren t F
    f.Later f' ∧ Effect f f' ⟨.children, t, (f.fragment markup).1.map (·.id), []⟩ := by
  have hlater := Forest.later_put hf t markup hperm
  refine ⟨hlater, ?_⟩
  by_cases h : f.HasElement t ∧ (f.fragment markup).1 ≠ []
  · exact .nodes (hlater.elements t h.1) (.inl (by simpa using h.2))
  · exact .nothing (Forest.trees_put t markup hnil h)

theorem effect_append (hf : f.Numbered) (t : Nat) (markup : String) :
    f.Later (f.appendMarkup t markup).1 ∧
      Effect f (f.appendMarkup t markup).1 (f.appendMarkup t markup).2 :=
  effect_put hf t markup (fun _ => List.Perm.refl _) fun h cs => by
    have hsame : cs ++ (f.fragment markup).1 = cs := by rw [h, List.append_nil]
    exact hsame

theorem effect_insert (hf : f.Numbered) (t index : Nat) (markup : String) :
    f.Later (f.insertMarkup t index markup).1 ∧
      Effect f (f.insertMarkup t index markup).1 (f.insertMarkup t index markup).2 :=
  effect_put hf t markup (fun cs => Forest.perm_insert index cs _) fun h cs => by
    have hsame : cs.take index ++ (f.fragment markup).1 ++ cs.drop index = cs := by
      rw [h, List.append_nil, List.take_append_drop]
    exact hsame

/-- What has children is an element. -/
theorem hasElement_of_children {n : Node} (hn : f.node? t = some n) (hc : n.children ≠ []) :
    f.HasElement t := by
  obtain ⟨p, hp, rfl⟩ := Option.map_eq_some_iff.mp hn
  obtain ⟨m, hm, hmem, hid⟩ := Forest.place?_some hp
  cases hnode : p.node with
  | leaf i k s =>
      rw [hnode] at hc
      exact absurd rfl hc
  | element i h cs =>
      rw [hnode] at hid
      cases hid
      exact Forest.hasElement_iff.mpr ⟨h, cs, hnode ▸ Forest.node_mem_nodes hp⟩

/-- The numbers of an element's children. -/
def childIds (f : Forest) (t : Nat) : List Nat :=
  match f.node? t with
  | some n => n.children.map Node.id
  | none => []

theorem hasElement_of_childIds (h : childIds f t ≠ []) : f.HasElement t := by
  unfold childIds at h
  cases hn : f.node? t with
  | none =>
      rw [hn] at h
      exact absurd rfl h
  | some n =>
      rw [hn] at h
      exact hasElement_of_children hn fun hnil => h (congrArg (List.map Node.id) hnil)

/-- Replacing children is taking the old ones out and appending. -/
theorem replaceChildren_eq (f : Forest) (t : Nat) (markup : String) :
    f.replaceChildren t markup =
      (((f.detachAll (childIds f t)).appendMarkup t markup).1,
        { ((f.detachAll (childIds f t)).appendMarkup t markup).2 with
          removed := childIds f t }) := by
  unfold childIds Forest.replaceChildren
  cases f.node? t <;> rfl

theorem effect_replaceChildren (hf : f.Numbered) (t : Nat) (markup : String) :
    f.Later (f.replaceChildren t markup).1 ∧
      Effect f (f.replaceChildren t markup).1 (f.replaceChildren t markup).2 := by
  rw [replaceChildren_eq]
  have hout := Forest.later_detachAll (childIds f t) hf
  obtain ⟨hlater, heffect⟩ := effect_append hout.numbered t markup
  refine ⟨hout.trans hlater, ?_⟩
  by_cases hnil : childIds f t = []
  · rw [hnil] at heffect ⊢
    exact heffect
  · exact .nodes ((hout.trans hlater).elements t (hasElement_of_childIds hnil)) (.inr hnil)

theorem effect_remove (hf : f.Numbered) (i : Nat) (h : (f.remove i).2 = some c) :
    f.Later (f.remove i).1 ∧ Effect f (f.remove i).1 c := by
  unfold Forest.remove at h ⊢
  cases hparent : f.parent? i with
  | none =>
      rw [hparent] at h
      cases h
  | some t =>
      rw [hparent] at h
      cases h
      obtain ⟨p, e, cs, _, _, _, hel⟩ := Forest.parent?_eq_some hf hparent
      have hlater := Forest.later_detach hf i
      have ht : f.HasElement t := Forest.hasElement_iff.mpr ⟨e, cs, hel⟩
      exact ⟨hlater, .nodes (hlater.elements t ht) (.inr (List.cons_ne_nil i []))⟩

theorem effect_setText (hf : f.Numbered) {i : Nat} {s : String}
    (hi : ∃ k t, f.node? i = some (.leaf i k t)) (h : f.setText i s = some (f', c)) :
    f.Later f' ∧ Effect f f' c := by
  obtain ⟨k, t, hnode⟩ := hi
  obtain ⟨⟨new, g⟩, hreplace, hc⟩ := Option.map_eq_some_iff.mp h
  cases hc
  obtain ⟨hlater, rfl, p, parent, e, cs, hp, hmem, hel, htrees⟩ :=
    Forest.replaceByText_spec hf hreplace
  have hleaf : p.node = .leaf i k t := by
    rw [Forest.node?, hp] at hnode
    exact Option.some.inj hnode
  refine ⟨hlater, .text (s := s) hp hleaf rfl ?_⟩
  -- the new text stands in the gap that the old one leaves among its siblings
  obtain ⟨outside, fill, hgap⟩ := exists_gap hf.nodup hel
  have hi : i ∈ Node.idsOfAll cs := by
    have := Node.mem_idsOfAll hmem (Node.id_mem_ids p.node)
    rwa [hleaf] at this
  have hout : i ∉ outside.map Prod.fst := by
    have hids := (hgap.census cs).map Prod.fst
    rw [hgap.fill_self, List.map_append, Node.map_fst_censusOfAll, Node.map_fst_censusOfAll] at hids
    have hdisj := (List.nodup_append.mp (hids.nodup_iff.mp hf.nodup)).2.2
    exact fun hm => hdisj i hm i hi rfl
  have hswap := map_swap_eq_retouch (Forest.nodup_children hf hel) (hleaf ▸ hmem) f.nextId s
  rw [htrees, hgap.modify, hswap, ← hgap.text i f.nextId s hout cs, hgap.fill_self]

/-- **Every change has one of the effects.** -/
theorem Mutation.effect (hf : f.Numbered) (hm : m.Proper f) (h : m.change f = some (f', c)) :
    f.Later f' ∧ Effect f f' c := by
  cases m with
  | append t markup =>
      cases h
      exact effect_append hf t markup
  | insert t index markup =>
      cases h
      exact effect_insert hf t index markup
  | replaceChildren t markup =>
      cases h
      exact effect_replaceChildren hf t markup
  | remove t =>
      obtain ⟨c', hc, heq⟩ := Option.map_eq_some_iff.mp h
      cases heq
      exact effect_remove hf t hc
  | setText t text => exact effect_setText hf hm h

end

/-! ## Weight -/

/-- The place is a block or lies in one. -/
def InBlock (rules : Rules) (p : Place) : Prop :=
  isBlock rules.blockTags p.node = true ∨ blocksAround rules p ≠ []

/-- The watcher minds such a record: its target lies in a block, or nodes came or went at it. -/
def Weighty (rules : Rules) (f : Forest) (c : Change) : Prop :=
  ∃ p, f.place? c.target = some p ∧
    (InBlock rules p ∨ f.HasElement c.target ∧ (c.added ≠ [] ∨ c.removed ≠ []))

/-- The target of the record lies in one of the regions. -/
def Observed (roots : List Nat) (f : Forest) (c : Change) : Prop :=
  ∃ r ∈ roots, f.contains r c.target = true

/-- A record that will be minded when it is told. -/
def Awaited (rules : Rules) (roots : List Nat) (f : Forest) (cs : List Change) : Prop :=
  ∃ c ∈ cs, Observed roots f c ∧ Weighty rules f c

/-- Passing from `f` to `f'` unsettles nothing, changes nothing in what the page is judged to be,
and takes no record its weight. -/
structure Harmless (rules : Rules) (f f' : Forest) : Prop where
  settled : Settled rules f.page → Settled rules f'.page
  survey : survey rules f'.page = survey rules f.page
  awaited : ∀ roots cs, Awaited rules roots f cs → Awaited rules roots f' cs

variable {rules : Rules} {f f' : Forest} {c : Change} {roots : List Nat}

theorem closest?_isSome_iff (p : Place) :
    (closest? rules.blockTags p).isSome = true ↔ InBlock rules p := by
  unfold closest? InBlock
  have h : (enclosing? rules.blockTags p).isNone = true ↔ blocksAround rules p = [] :=
    enclosing?_isNone_iff p
  by_cases hb : isBlock rules.blockTags p.node = true
  · simp [hb]
  · rw [if_neg hb, or_iff_right hb, ne_eq, ← h]
    cases enclosing? rules.blockTags p <;> simp

/-- **A weighty record is minded.** -/
theorem Weighty.minds (h : Weighty rules f c) {w : Watcher} (hw : w.blockTags = rules.blockTags) :
    w.minds f c = true := by
  obtain ⟨p, hp, hin | ⟨_, hsome⟩⟩ := h
  · have hclosest := (closest?_isSome_iff p).mpr hin
    simp [Watcher.minds, hw, hp, hclosest]
  · have hne : (!c.added.isEmpty || !c.removed.isEmpty) = true := by
      rcases hsome with h | h
      · simp [h]
      · simp [h]
    rw [Watcher.minds, Bool.or_assoc, hne, Bool.or_true]

theorem exists_place_of_contains {r i : Nat} (h : f.contains r i = true) :
    ∃ p, f.place? i = some p := by
  unfold Forest.contains at h
  cases hp : f.place? i with
  | none =>
      rw [hp] at h
      cases h
  | some p => exact ⟨p, rfl⟩

theorem Harmless.of_trees (htrees : f'.trees = f.trees) : Harmless rules f f' := by
  have hpage : f'.page = f.page := (List.cons.inj htrees).1
  have hplace (i : Nat) : f'.place? i = f.place? i := by
    rw [Forest.place?, Forest.place?, htrees]
  refine ⟨fun h => hpage ▸ h, congrArg (Layout.survey rules) hpage, fun roots cs => ?_⟩
  rintro ⟨c, hc, ⟨r, hr, hcontains⟩, p, hp, hweight⟩
  refine ⟨c, hc, ⟨r, hr, ?_⟩, p, (hplace _).trans hp, ?_⟩
  · rwa [Forest.contains, hplace]
  · rwa [Forest.HasElement, Forest.census, htrees]

/-! ## Replacing a text -/

theorem id_text_of_ne {old new : Nat} {s : String} {n : Node} (h : n.id ≠ old) :
    (n.retouch (.text old new s)).id = n.id := by
  cases n with
  | leaf i k t => rw [retouch_text_leaf (i := i) h]
  | element i e cs => rfl

theorem inBlock_text {old new : Nat} {s : String} (p : Place) :
    InBlock rules (p.retouch (.text old new s)) ↔ InBlock rules p := by
  have haround : blocksAround rules (p.retouch (.text old new s)) =
      (blocksAround rules p).map (Node.retouch (.text old new s)) := by
    have hcomp : isBlock rules.blockTags ∘ Node.retouch (.text old new s) =
        isBlock rules.blockTags := funext fun n => isBlock_text _ n
    have hnodes : (p.above.map (Markup.Level.retouch (.text old new s))).map (·.node) =
        (p.above.map (·.node)).map (Node.retouch (.text old new s)) := by
      rw [List.map_map, List.map_map]
      rfl
    rw [blocksAround, Place.above_retouch, hnodes, List.filter_map, hcomp, blocksAround]
  unfold InBlock
  rw [haround, Place.node_retouch, isBlock_text, ne_eq, List.map_eq_nil_iff]

section

variable {i : Nat} {k : TextKind} {t s : String} {p : Place}

/-- Places other than that of the text are found as before. -/
theorem place?_text (hf' : f'.Numbered)
    (htrees : f'.trees = f.trees.map (Node.retouch (.text i f.nextId s)) ++ [p.node]) {j : Nat}
    {q : Place} (hq : f.place? j = some q) :
    f'.place? (q.retouch (.text i f.nextId s)).node.id = some (q.retouch (.text i f.nextId s)) := by
  obtain ⟨n, hn, hqn, _⟩ := Forest.place?_some hq
  have hmem : n.retouch (.text i f.nextId s) ∈ f'.trees := by
    rw [htrees]
    exact List.mem_append_left _ (List.mem_map_of_mem hn)
  refine Forest.place?_of_mem hf' hmem ?_
  rw [← Place.top_retouch, Place.all_retouch]
  exact List.mem_map_of_mem hqn

/-- What lies around a node is no leaf. -/
theorem ne_leaf_of_mem_above (hf : f.Numbered) (hp : f.place? i = some p)
    (hleaf : p.node = .leaf i k t) {j : Nat} {q : Place} (hq : f.place? j = some q)
    {l : Markup.Level} (hl : l ∈ q.above) : l.node.id ≠ i := by
  intro hid
  obtain ⟨n, hn, hqn, _⟩ := Forest.place?_some hq
  obtain ⟨r, houter⟩ := Place.exists_outer hl
  obtain ⟨hall, hin⟩ := Place.mem_of_mem_outer (hf.tree hn) hqn houter
  have hfound := Forest.place?_of_mem hf hn hall
  have hplace : (⟨l, r⟩ : Place) = p := by
    rw [hid, hp] at hfound
    exact (Option.some.inj hfound).symm
  rw [hplace, Place.inside, hleaf] at hin
  exact List.not_mem_nil hin

/-- A weighty record does not point at a text outside every block. -/
theorem ne_of_weighty (hf : f.Numbered) (hp : f.place? i = some p) (hleaf : p.node = .leaf i k t)
    (hout : ¬ InBlock rules p) {j : Nat} {q : Place} (hq : f.place? j = some q)
    (hweight : InBlock rules q ∨ f.HasElement j) : j ≠ i := by
  rintro rfl
  rcases hweight with hin | helement
  · rw [hp] at hq
    cases hq
    exact hout hin
  · obtain ⟨p', _, _, hp', hel⟩ := helement.place? hf
    rw [hp] at hp'
    cases hp'
    rw [hleaf] at hel
    cases hel

/-- What lies in a region still lies there, since what is around a node keeps its number. -/
theorem contains_text (hf : f.Numbered) (hp : f.place? i = some p) (hleaf : p.node = .leaf i k t)
    {j r : Nat} {q : Place} (hq : f.place? j = some q)
    (hq' : f'.place? j = some (q.retouch (.text i f.nextId s))) (hr : f.contains r j = true) :
    f'.contains r j = true := by
  rw [Forest.contains, hq] at hr
  rw [Forest.contains, hq']
  simp only [Bool.or_eq_true, List.any_eq_true] at hr ⊢
  refine hr.imp id ?_
  rintro ⟨l, hl, hroot⟩
  refine ⟨l.retouch _, List.mem_map_of_mem hl, ?_⟩
  rw [show (l.retouch (.text i f.nextId s)).node.id = l.node.id from
    id_text_of_ne (ne_leaf_of_mem_above hf hp hleaf hq hl)]
  exact hroot

/-- **Replacing a text outside every block is harmless.** -/
theorem harmless_text (hf : f.Numbered) (hf' : f.Later f') (hp : f.place? i = some p)
    (hleaf : p.node = .leaf i k t)
    (htrees : f'.trees = f.trees.map (Node.retouch (.text i f.nextId s)) ++ [p.node])
    (hout : ¬ InBlock rules p) : Harmless rules f f' := by
  have hpage : f'.page = f.page.retouch (.text i f.nextId s) := (List.cons.inj htrees).1
  have houtside : Outside rules f.page i := by
    intro q hq hid
    have hfound := Forest.place?_of_mem hf List.mem_cons_self hq
    rw [hid, hp] at hfound
    cases hfound
    exact not_not.mp fun haround => hout (.inr haround)
  refine ⟨fun h => ?_, ?_, fun roots cs => ?_⟩
  · rw [hpage]
    exact houtside.settled hf.page h
  · rw [hpage, houtside.survey_text hf.page]
  · -- the record points at another node, which is still there and still as it was
    rintro ⟨c, hc, ⟨r, hr, hcontains⟩, q, hq, hweight⟩
    have hne := ne_of_weighty hf hp hleaf hout hq (hweight.imp_right fun h => h.1)
    obtain ⟨_, _, _, hid⟩ := Forest.place?_some hq
    have hq' := place?_text hf'.numbered htrees hq
    rw [Place.node_retouch, id_text_of_ne (hid ▸ hne), hid] at hq'
    refine ⟨c, hc, ⟨r, hr, contains_text hf hp hleaf hq hq' hcontains⟩, _, hq', ?_⟩
    exact hweight.imp (inBlock_text q).mpr fun h => ⟨hf'.elements _ h.1, h.2⟩

end

/-- **A change whose record is observed is weighty or harmless.** -/
theorem Effect.weighty_or_harmless (rules : Rules) (hf : f.Numbered) (hf' : f.Later f')
    (h : Effect f f' c) (hc : Observed roots f' c) :
    Weighty rules f' c ∨ Harmless rules f f' := by
  obtain ⟨r, _, hcontains⟩ := hc
  cases h with
  | nodes target some =>
      obtain ⟨p, hp⟩ := exists_place_of_contains hcontains
      exact .inl ⟨p, hp, .inr ⟨target, some⟩⟩
  | nothing same => exact .inr (Harmless.of_trees same)
  | @text i k t s p place leaf target trees =>
      by_cases hin : InBlock rules p
      · have hplace := place?_text hf'.numbered trees place
        have hnew : (p.retouch (.text i f.nextId s)).node.id = f.nextId := by
          rw [Place.node_retouch, leaf]
          simp [Node.retouch, Retouch.text, Node.id]
        rw [hnew, ← target] at hplace
        exact .inl ⟨_, hplace, .inl ((inBlock_text p).mpr hin)⟩
      · exact .inr (harmless_text hf hf' place leaf trees hin)

end StickerPages.Live
