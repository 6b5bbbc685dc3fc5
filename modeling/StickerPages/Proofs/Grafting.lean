import StickerPages.Markup.Reader
import StickerPages.Proofs.Numbering
import StickerPages.Proofs.Replacing

/-!
# A filled page keeps its elements

What is read of a filled page differs from what was read before in its texts alone. The tree is
built from what is read, one piece at a time, so the two trees are built side by side: the same
elements are open, with the same attributes, and what is below them so far is the same but for texts
(`Twins`). A text goes on until some other piece ends it; only then does it become a node, or, if
there are stickers in it, several (`Sim.flush`).
-/

namespace StickerPages.Content

open Markup

/-! ## Trees -/

/-- The characters of a leaf: blanks collapse if there is nothing else, unless an element around
keeps them. -/
def shown (keeps : Bool) (cs : List Char) : String :=
  String.ofList (if keeps then cs else collapse cs)

/-- The node that stands for a text or a picture. -/
def Item.StandsFor (style : String) (keeps : Bool) (kind : TextKind) (item : Item) (n : Node) :
    Prop :=
  match item with
  | .text cs => ∃ i, n = .leaf i kind (shown keeps cs)
  | .picture url alt => ∃ i, n = .element i (pictureElement url alt style) []

/-- The second trees are the first with running texts filled: every element is there with its
attributes, and below it the same is true; in place of a text, if it is reading matter, there stand
texts and pictures in turn. `keeps` says that an element around keeps blanks. -/
inductive Grafted (map : List (String × String)) (style : String) :
    Bool → List Node → List Node → Prop
  | nil {keeps : Bool} : Grafted map style keeps [] []
  | leaf {keeps : Bool} (i j : Nat) (kind : TextKind) (content : String) {ns ms : List Node}
      (h : Grafted map style keeps ns ms) :
      Grafted map style keeps (.leaf i kind content :: ns) (.leaf j kind content :: ms)
  | text {keeps : Bool} (i : Nat) (kind : TextKind) (hkind : kind.isReading = true)
      (parts : List (List Char)) {ts ns ms : List Node}
      (hts : List.Forall₂ (Item.StandsFor (unescaped style) keeps kind)
        (gather none (parts.flatMap (weave map))) ts)
      (h : Grafted map style keeps ns ms) :
      Grafted map style keeps (.leaf i kind (shown keeps parts.flatten) :: ns) (ts ++ ms)
  | element {keeps : Bool} (i j : Nat) (e : Element) {cs ds ns ms : List Node}
      (hbelow : Grafted map style (keepsBlanks e.name || keeps) cs ds)
      (h : Grafted map style keeps ns ms) :
      Grafted map style keeps (.element i e cs :: ns) (.element j e ds :: ms)

variable {map : List (String × String)} {style : String} {keeps : Bool}

theorem Grafted.append {ns ms ns' ms' : List Node} (h : Grafted map style keeps ns ms)
    (h' : Grafted map style keeps ns' ms') : Grafted map style keeps (ns ++ ns') (ms ++ ms') := by
  induction h with
  | nil => exact h'
  | leaf i j kind content _ ih => exact (ih h').leaf i j kind content
  | text i kind hkind parts hts _ ih =>
      rw [List.append_assoc]
      exact (ih h').text i kind hkind parts hts
  | element i j e hbelow _ _ ih => exact hbelow.element i j e (ih h')

/-! ## What is grafted -/

/-- The elements of several trees, in document order. -/
def elementsOf (ns : List Node) : List Element :=
  (Node.nodesOfAll ns).filterMap Node.head?

/-- The characters of a leaf. -/
def leafChars : Node → List Char
  | .leaf _ _ content => content.toList
  | .element .. => []

/-- The characters of all leaves of several trees. -/
def charsOf (ns : List Node) : List Char :=
  (Node.nodesOfAll ns).flatMap leafChars

/-- What a comment, a declaration or another note is and holds. -/
def noteOf? : Node → Option (TextKind × String)
  | .leaf _ kind content => if kind.isReading then none else some (kind, content)
  | .element .. => none

/-- The notes of several trees, in document order. -/
def notesOf (ns : List Node) : List (TextKind × String) :=
  (Node.nodesOfAll ns).filterMap noteOf?

theorem nodesOfAll_append (ns ms : List Node) :
    Node.nodesOfAll (ns ++ ms) = Node.nodesOfAll ns ++ Node.nodesOfAll ms := by
  rw [Node.nodesOfAll_eq, Node.nodesOfAll_eq, Node.nodesOfAll_eq, List.flatMap_append]

theorem nodesOfAll_element (i : Nat) (e : Element) (cs ns : List Node) :
    Node.nodesOfAll (.element i e cs :: ns) =
      .element i e cs :: (Node.nodesOfAll cs ++ Node.nodesOfAll ns) := by
  rw [Node.nodesOfAll, Node.nodes, List.cons_append]

theorem nodesOfAll_leaf (i : Nat) (kind : TextKind) (content : String) (ns : List Node) :
    Node.nodesOfAll (.leaf i kind content :: ns) =
      .leaf i kind content :: Node.nodesOfAll ns := by
  rw [Node.nodesOfAll, Node.nodes, List.singleton_append]

section

variable (i : Nat) (e : Element) (kind : TextKind) (content : String) (cs ns ms : List Node)

@[simp]
theorem elementsOf_leaf : elementsOf (.leaf i kind content :: ns) = elementsOf ns := rfl

@[simp]
theorem elementsOf_element :
    elementsOf (.element i e cs :: ns) = e :: (elementsOf cs ++ elementsOf ns) := by
  simp [elementsOf, nodesOfAll_element, Node.head?]

@[simp]
theorem elementsOf_append : elementsOf (ns ++ ms) = elementsOf ns ++ elementsOf ms := by
  simp [elementsOf, nodesOfAll_append]

@[simp]
theorem charsOf_leaf :
    charsOf (.leaf i kind content :: ns) = content.toList ++ charsOf ns := by
  simp [charsOf, nodesOfAll_leaf, leafChars]

@[simp]
theorem charsOf_element : charsOf (.element i e cs :: ns) = charsOf cs ++ charsOf ns := by
  simp [charsOf, nodesOfAll_element, leafChars]

@[simp]
theorem charsOf_append : charsOf (ns ++ ms) = charsOf ns ++ charsOf ms := by
  simp [charsOf, nodesOfAll_append]

theorem notesOf_leaf : notesOf (.leaf i kind content :: ns) =
    (if kind.isReading then [] else [(kind, content)]) ++ notesOf ns := by
  rw [notesOf, nodesOfAll_leaf, List.filterMap_cons, noteOf?]
  by_cases h : kind.isReading = true <;> simp [h, notesOf]

theorem notesOf_element : notesOf (.element i e cs :: ns) = notesOf cs ++ notesOf ns := by
  have hnone : noteOf? (.element i e cs) = none := rfl
  rw [notesOf, nodesOfAll_element, List.filterMap_cons_none hnone, List.filterMap_append]
  rfl

theorem notesOf_append : notesOf (ns ++ ms) = notesOf ns ++ notesOf ms := by
  simp [notesOf, nodesOfAll_append]

end

variable {ns ms ts : List Node}

/-- **Every element is still there**, in document order and with its attributes. -/
theorem Grafted.sublist_elementsOf (h : Grafted map style keeps ns ms) :
    (elementsOf ns).Sublist (elementsOf ms) := by
  induction h with
  | nil => exact .refl _
  | leaf i j kind content _ ih => simpa using ih
  | text i kind _ parts hts _ ih =>
      rw [elementsOf_leaf, elementsOf_append]
      exact List.sublist_append_of_sublist_right ih
  | element i j e hbelow _ ihbelow ih =>
      rw [elementsOf_element, elementsOf_element]
      exact (ihbelow.append ih).cons_cons e

/-- **What is new is a picture.** -/
theorem Grafted.mem_elementsOf (h : Grafted map style keeps ns ms) :
    ∀ e ∈ elementsOf ms,
      e ∈ elementsOf ns ∨ ∃ url alt, e = pictureElement url alt (unescaped style) := by
  have hnew {keeps : Bool} {kind : TextKind} {items : List Item} {ts : List Node}
      (hts : List.Forall₂ (Item.StandsFor (unescaped style) keeps kind) items ts) :
      ∀ e ∈ elementsOf ts, ∃ url alt, e = pictureElement url alt (unescaped style) := by
    induction hts with
    | nil =>
        intro e he
        cases he
    | @cons item n items ts hitem _ ih =>
        intro e he
        cases item with
        | text cs =>
            obtain ⟨i, rfl⟩ := hitem
            exact ih e he
        | picture url alt =>
            obtain ⟨i, rfl⟩ := hitem
            rw [elementsOf_element, List.mem_cons] at he
            rcases he with rfl | he
            · exact ⟨url, alt, rfl⟩
            · exact ih e he
  induction h with
  | nil =>
      intro e he
      exact .inl he
  | leaf i j kind content _ ih => simpa using ih
  | text i kind _ parts hts _ ih =>
      intro e he
      rw [elementsOf_append, List.mem_append] at he
      exact he.elim (fun he => .inr (hnew hts e he)) (ih e)
  | element i j d hbelow _ ihbelow ih =>
      intro e he
      rw [elementsOf_element, List.mem_cons, List.mem_append] at he ⊢
      rcases he with rfl | he | he
      · exact .inl (.inl rfl)
      · exact (ihbelow e he).imp_left fun he => .inr (.inl he)
      · exact (ih e he).imp_left fun he => .inr (.inr he)

/-- A leaf has the characters of its text, blanks apart. -/
theorem mem_shown {c : Char} (hc : Text.isBlank c = false) (cs : List Char) :
    c ∈ (shown keeps cs).toList ↔ c ∈ cs := by
  rw [shown, String.toList_ofList]
  split
  · rfl
  · unfold collapse
    split
    · next hall =>
      have hnot : c ∉ cs := by
        intro hmem
        have hblank := List.all_eq_true.mp hall c hmem
        simp only [collapses, Bool.or_eq_true, beq_iff_eq] at hblank
        rcases hblank with (((rfl | rfl) | rfl) | rfl) | rfl <;> exact absurd hc (by decide)
      refine iff_of_false ?_ hnot
      split <;> rw [List.mem_singleton] <;> rintro rfl <;> exact absurd hc (by decide)
    · rfl

/-- **No characters are new but blanks.** -/
theorem Grafted.mem_charsOf (h : Grafted map style keeps ns ms) {c : Char}
    (hc : Text.isBlank c = false) : c ∈ charsOf ms → c ∈ charsOf ns := by
  have hnew {keeps : Bool} {kind : TextKind} {items : List Item} {ts : List Node}
      (hts : List.Forall₂ (Item.StandsFor (unescaped style) keeps kind) items ts) :
      c ∈ charsOf ts → ∃ cs, .text cs ∈ items ∧ c ∈ cs := by
    induction hts with
    | nil => exact fun hmem => by cases hmem
    | @cons item n items ts hitem _ ih =>
        have hlater : c ∈ charsOf ts → ∃ cs, .text cs ∈ item :: items ∧ c ∈ cs := fun hmem =>
          (ih hmem).imp fun cs hcs => ⟨List.mem_cons_of_mem _ hcs.1, hcs.2⟩
        intro hmem
        cases item with
        | text cs =>
            obtain ⟨i, rfl⟩ := hitem
            rw [charsOf_leaf, List.mem_append, mem_shown hc] at hmem
            exact hmem.elim (fun hmem => ⟨cs, List.mem_cons_self, hmem⟩) hlater
        | picture url alt =>
            obtain ⟨i, rfl⟩ := hitem
            rw [charsOf_element, List.mem_append] at hmem
            exact hmem.elim (fun hmem => by cases hmem) hlater
  induction h with
  | nil => exact id
  | leaf i j kind content _ ih =>
      rw [charsOf_leaf, charsOf_leaf, List.mem_append, List.mem_append]
      exact Or.imp_right ih
  | text i kind _ parts hts _ ih =>
      rw [charsOf_leaf, charsOf_append, List.mem_append, List.mem_append, mem_shown hc]
      refine Or.imp (fun hmem => ?_) ih
      obtain ⟨cs, hcs, hmem⟩ := hnew hts hmem
      rcases mem_gather hmem none hcs with hnone | ⟨ds, hds, hmem⟩
      · cases hnone
      · obtain ⟨part, hpart, hds⟩ := List.mem_flatMap.mp hds
        exact List.mem_flatten.mpr ⟨part, hpart, mem_of_mem_weave hds hmem⟩
  | element i j e hbelow _ ihbelow ih =>
      rw [charsOf_element, charsOf_element, List.mem_append, List.mem_append]
      exact Or.imp ihbelow ih

/-- **Comments, declarations and other notes are what they were.** -/
theorem Grafted.notesOf_eq (h : Grafted map style keeps ns ms) : notesOf ms = notesOf ns := by
  have hnew {keeps : Bool} {kind : TextKind} (hkind : kind.isReading = true) {items : List Item}
      {ts : List Node} (hts : List.Forall₂ (Item.StandsFor (unescaped style) keeps kind) items ts) :
      notesOf ts = [] := by
    induction hts with
    | nil => rfl
    | @cons item n items ts hitem _ ih =>
        cases item with
        | text cs =>
            obtain ⟨i, rfl⟩ := hitem
            rw [notesOf_leaf, if_pos hkind, ih, List.append_nil]
        | picture url alt =>
            obtain ⟨i, rfl⟩ := hitem
            rw [notesOf_element, ih]
            rfl
  induction h with
  | nil => rfl
  | leaf i j kind content _ ih => rw [notesOf_leaf, notesOf_leaf, ih]
  | text i kind hkind parts hts _ ih =>
      rw [notesOf_append, hnew hkind hts, notesOf_leaf, if_pos hkind, ih]
  | element i j e hbelow _ ihbelow ih =>
      rw [notesOf_element, notesOf_element, ihbelow, ih]

end StickerPages.Content

/-! ## Several nodes at once -/

namespace StickerPages.Markup.Build

/-- Puts nodes at the end of the innermost open element. -/
def addAll (b : Build) (ns : List Node) : Build :=
  match b.opened with
  | [] => { b with root := { b.root with children := ns.reverse ++ b.root.children } }
  | f :: r => { b with opened := { f with children := ns.reverse ++ f.children } :: r }

theorem addAll_nil (b : Build) : b.addAll [] = b := by
  obtain ⟨opened, root, pending, nextId⟩ := b
  cases opened <;> rfl

theorem add_eq (b : Build) (n : Node) : b.add n = b.addAll [n] := by
  obtain ⟨opened, root, pending, nextId⟩ := b
  cases opened <;> rfl

theorem addAll_addAll (b : Build) (ns ms : List Node) :
    (b.addAll ns).addAll ms = b.addAll (ns ++ ms) := by
  obtain ⟨opened, root, pending, nextId⟩ := b
  cases opened <;> simp [addAll]

theorem addAll_with (b : Build) (ns : List Node) (pending : Option (List Char)) (nextId : Nat) :
    ({ b with pending := pending, nextId := nextId } : Build).addAll ns =
      { b.addAll ns with pending := pending, nextId := nextId } := by
  obtain ⟨opened, root, _, _⟩ := b
  cases opened <;> rfl

theorem heads_addAll (b : Build) (ns : List Node) :
    (b.addAll ns).opened.map Frame.head = b.opened.map Frame.head := by
  obtain ⟨opened, root, pending, nextId⟩ := b
  cases opened <;> rfl

/-- The kind of a text depends on what elements are open. -/
theorem textKind_congr {b c : Build}
    (h : c.opened.map Frame.head = b.opened.map Frame.head) : c.textKind = b.textKind := by
  have hmap (d : Build) : d.textKind =
      ((d.opened.map Frame.head).findSome? fun e => textKindOf? e.name).getD .plain := by
    rw [List.findSome?_map]
    rfl
  rw [hmap, hmap, h]

/-- A text is reading matter, whatever elements are open. -/
theorem isReading_textKind (b : Build) : b.textKind.isReading = true := by
  have hnames : ∀ name, ∀ kind ∈ textKindOf? name, kind.isReading = true := by
    intro name kind h
    unfold textKindOf? at h
    split at h <;> cases h <;> rfl
  unfold textKind
  cases h : b.opened.findSome? fun f => textKindOf? f.head.name with
  | none => rfl
  | some kind =>
      obtain ⟨f, -, hf⟩ := List.exists_of_findSome?_eq_some h
      exact hnames _ kind hf

theorem flush_of_none {b : Build} (h : b.pending = none) : b.flush = b := by
  rw [flush, h]

theorem pending_flush (b : Build) : b.flush.pending = none := by
  obtain ⟨opened, root, pending, nextId⟩ := b
  cases pending with
  | none => rfl
  | some cs => cases opened <;> rfl

/-- Whatever is no text ends the text that may still go on. -/
theorem take_flush {p : Piece} (hp : ∀ cs, p ≠ .text cs) (b : Build) :
    b.take p = b.flush.take p := by
  have hagain : b.flush.flush = b.flush := flush_of_none b.pending_flush
  cases p with
  | text cs => exact absurd rfl (hp cs)
  | start name attrs closed => rw [take, take, hagain]
  | stop name => rw [take, take, hagain]
  | note kind cs => rw [take, take, hagain]

end StickerPages.Markup.Build

namespace StickerPages.Content

open Markup

variable {map : List (String × String)} {style : String} {keeps : Bool}

/-- An open element keeps blanks. -/
def keepsIn (fs : List Frame) : Bool :=
  fs.any fun f => keepsBlanks f.head.name

theorem keepsIn_congr {fs gs : List Frame} (h : gs.map Frame.head = fs.map Frame.head) :
    keepsIn gs = keepsIn fs := by
  have hmap (fs : List Frame) :
      keepsIn fs = (fs.map Frame.head).any fun e => keepsBlanks e.name := by
    rw [List.any_map]
    rfl
  rw [hmap, hmap, h]

theorem addLeaf_eq (b : Build) (kind : TextKind) (cs : List Char) :
    b.addLeaf kind cs =
      { b.addAll [.leaf b.nextId kind (shown (keepsIn b.opened) cs)] with
        nextId := b.nextId + 1 } := by
  rw [← Build.add_eq]
  rfl

/-! ## A text becomes nodes -/

/-- What happens to a tree under construction when a text ends that has gone on so far. -/
theorem flush_front (style : String) {b : Build} {front : Option (List Char)}
    (h : b.pending = front.map List.reverse) :
    ∃ ts k, List.Forall₂ (Item.StandsFor style (keepsIn b.opened) b.textKind)
        (front.toList.map .text) ts ∧
      b.flush = { b.addAll ts with pending := none, nextId := k } := by
  cases front with
  | none =>
      refine ⟨[], b.nextId, .nil, ?_⟩
      rw [Build.flush_of_none h, Build.addAll_nil]
      obtain ⟨opened, root, pending, nextId⟩ := b
      cases h
      rfl
  | some cs =>
      refine ⟨_, b.nextId + 1, .cons ⟨b.nextId, rfl⟩ .nil, ?_⟩
      rw [Build.flush, h]
      dsimp only [Option.map_some]
      rw [List.reverse_reverse, addLeaf_eq, Build.addAll_with]

/-- **A text and the stickers in it become nodes in turn.** -/
theorem flush_items (style : String) (items : List Item) :
    ∀ (front : Option (List Char)) (b : Build), b.pending = front.map List.reverse →
      ∃ ts k, List.Forall₂ (Item.StandsFor style (keepsIn b.opened) b.textKind)
          (gather front items) ts ∧
        ((items.map (Item.piece style)).foldl Build.take b).flush =
          { b.addAll ts with pending := none, nextId := k } := by
  induction items with
  | nil => exact fun front b h => flush_front style h
  | cons item r ih =>
      intro front b h
      cases item with
      | text cs =>
          have hpending : (b.take (.text cs)).pending =
              (some (front.getD [] ++ cs)).map List.reverse := by
            rw [Build.take, h]
            cases front <;> simp
          obtain ⟨ts, k, hts, hflush⟩ := ih _ (b.take (.text cs)) hpending
          refine ⟨ts, k, hts, hflush.trans ?_⟩
          have hall := b.addAll_with ts (some (cs.reverse ++ b.pending.getD [])) b.nextId
          rw [Build.take]
          exact congrArg (fun d : Build => { d with pending := none, nextId := k }) hall
      | picture url alt =>
          obtain ⟨ts, k, hts, hflush⟩ := flush_front style h
          let n : Node := .element k (pictureElement url alt style) []
          have htake : b.take ((Item.picture url alt).piece style) =
              { b.addAll (ts ++ [n]) with pending := none, nextId := k + 1 } := by
            have hvoid : (false || voidNames.contains "img") = true := by decide
            rw [Item.piece, Build.take, hflush, ofTag_pictureAttrs, if_pos hvoid, Build.add_eq,
              Build.addAll_with, Build.addAll_addAll]
          have hheads : (b.take ((Item.picture url alt).piece style)).opened.map Frame.head =
              b.opened.map Frame.head := by
            rw [htake]
            exact b.heads_addAll _
          have hpending : (b.take ((Item.picture url alt).piece style)).pending = none := by
            rw [htake]
          obtain ⟨ts', k', hts', hflush'⟩ := ih none _ hpending
          rw [Build.textKind_congr hheads, keepsIn_congr hheads] at hts'
          refine ⟨ts ++ n :: ts', k', List.rel_append hts (.cons ⟨k, rfl⟩ hts'), ?_⟩
          rw [List.map_cons, List.foldl_cons, hflush', htake, Build.addAll_with,
            Build.addAll_addAll, List.append_assoc]
          rfl

/-! ## Two trees under construction -/

/-- The same elements are open, and what is below them so far is the same but for texts. -/
inductive Stacks (map : List (String × String)) (style : String) :
    List Frame → List Frame → Prop
  | nil : Stacks map style [] []
  | cons {f g : Frame} {fs gs : List Frame} (hhead : g.head = f.head)
      (hbelow : Grafted map style (keepsIn (f :: fs)) f.children.reverse g.children.reverse)
      (h : Stacks map style fs gs) : Stacks map style (f :: fs) (g :: gs)

theorem Stacks.heads {fs gs : List Frame} (h : Stacks map style fs gs) :
    gs.map Frame.head = fs.map Frame.head := by
  induction h with
  | nil => rfl
  | cons hhead _ _ ih => rw [List.map_cons, List.map_cons, hhead, ih]

/-- Two trees under construction that are the same but for texts, with no text going on. -/
structure Twins (map : List (String × String)) (style : String) (b c : Build) : Prop where
  opened : Stacks map style b.opened c.opened
  root : b.root.head = ⟨rootName, []⟩
  root' : c.root.head = ⟨rootName, []⟩
  below : Grafted map style false b.root.children.reverse c.root.children.reverse
  ended : b.pending = none
  ended' : c.pending = none

namespace Twins

variable {b c : Build}

theorem renumber (h : Twins map style b c) (k l : Nat) :
    Twins map style { b with nextId := k } { c with nextId := l } :=
  ⟨h.opened, h.root, h.root', h.below, h.ended, h.ended'⟩

theorem addAll (h : Twins map style b c) {ns ms : List Node}
    (hn : Grafted map style (keepsIn b.opened) ns ms) :
    Twins map style (b.addAll ns) (c.addAll ms) := by
  obtain ⟨fs, root, pending, nextId⟩ := b
  obtain ⟨gs, root', pending', nextId'⟩ := c
  obtain ⟨hopened, hroot, hroot', hbelow, hended, hended'⟩ := h
  dsimp only at hopened hn
  cases hopened with
  | nil =>
      refine ⟨.nil, hroot, hroot', ?_, hended, hended'⟩
      simpa [Build.addAll] using hbelow.append hn
  | @cons f g fs gs hhead hchildren hstacks =>
      have hgrown : Grafted map style (keepsIn (f :: fs)) (ns.reverse ++ f.children).reverse
          (ms.reverse ++ g.children).reverse := by
        simpa using hchildren.append hn
      exact ⟨.cons hhead hgrown hstacks, hroot, hroot', hbelow, hended, hended'⟩

theorem add (h : Twins map style b c) {n m : Node}
    (hn : Grafted map style (keepsIn b.opened) [n] [m]) : Twins map style (b.add n) (c.add m) := by
  rw [Build.add_eq, Build.add_eq]
  exact h.addAll hn

theorem close (h : Twins map style b c) : Twins map style b.close c.close := by
  obtain ⟨fs, root, pending, nextId⟩ := b
  obtain ⟨gs, root', pending', nextId'⟩ := c
  obtain ⟨hopened, hroot, hroot', hbelow, hended, hended'⟩ := h
  dsimp only at hopened
  cases hopened with
  | nil => exact ⟨.nil, hroot, hroot', hbelow, hended, hended'⟩
  | @cons f g fs gs hhead hchildren hstacks =>
      have hrest : Twins map style ⟨fs, root, pending, nextId⟩ ⟨gs, root', pending', nextId'⟩ :=
        ⟨hstacks, hroot, hroot', hbelow, hended, hended'⟩
      refine hrest.add ?_
      rw [hhead]
      exact .element f.id g.id f.head hchildren .nil

theorem closeMany (h : Twins map style b c) (n : Nat) :
    Twins map style (Build.closeMany n b) (Build.closeMany n c) := by
  induction n generalizing b c with
  | zero => exact h
  | succ n ih => exact ih h.close

theorem closeTo (h : Twins map style b c) (name : String) :
    Twins map style (b.closeTo name) (c.closeTo name) := by
  have hany : (c.opened.any fun f => f.head.name == name) =
      b.opened.any fun f => f.head.name == name := by
    have hmap (fs : List Frame) : (fs.any fun f => f.head.name == name) =
        (fs.map Frame.head).any fun e => e.name == name := by
      rw [List.any_map]
      rfl
    rw [hmap, hmap, h.opened.heads]
  have hlength : (c.opened.takeWhile fun f => f.head.name != name).length =
      (b.opened.takeWhile fun f => f.head.name != name).length := by
    have hmap (fs : List Frame) : (fs.takeWhile fun f => f.head.name != name).length =
        ((fs.map Frame.head).takeWhile fun e => e.name != name).length := by
      rw [List.takeWhile_map, List.length_map]
      rfl
    rw [hmap, hmap, h.opened.heads]
  unfold Build.closeTo
  rw [hany, hlength]
  split
  · exact h.closeMany _
  · exact h

theorem push (h : Twins map style b c) (i j k l : Nat) (e : Element) :
    Twins map style { b with opened := ⟨i, e, []⟩ :: b.opened, nextId := k }
      { c with opened := ⟨j, e, []⟩ :: c.opened, nextId := l } :=
  ⟨.cons rfl .nil h.opened, h.root, h.root', h.below, h.ended, h.ended'⟩

/-- Whatever is read that is no text does the same to both. -/
theorem take (h : Twins map style b c) {p : Piece} (hp : ∀ cs, p ≠ .text cs) :
    Twins map style (b.take p) (c.take p) := by
  have hb : b.flush = b := Build.flush_of_none h.ended
  have hc : c.flush = c := Build.flush_of_none h.ended'
  cases p with
  | text cs => exact absurd rfl (hp cs)
  | start name attrs closed =>
      rw [Build.take, Build.take, hb, hc]
      dsimp only
      split
      · exact (h.add (.element _ _ _ .nil .nil)).renumber _ _
      · exact h.push _ _ _ _ _
  | stop name =>
      rw [Build.take, Build.take, hb, hc]
      exact h.closeTo name
  | note kind cs =>
      rw [Build.take, Build.take, hb, hc, addLeaf_eq, addLeaf_eq, keepsIn_congr h.opened.heads]
      exact (h.addAll (.leaf _ _ kind _ .nil)).renumber _ _

end Twins

/-! ## A text that may still go on -/

/-- Two trees under construction that are the same but for texts, where a text that is made of some
parts may still go on. -/
def Sim (map : List (String × String)) (style : String) (b c : Build) : Prop :=
  ∃ (parts : List (List Char)) (b₀ c₀ : Build), Twins map style b₀ c₀ ∧
    b = ((parts.map Item.text).map (Item.piece style)).foldl Build.take b₀ ∧
    c = ((parts.flatMap (weave map)).map (Item.piece (unescaped style))).foldl Build.take c₀

theorem gather_texts (parts : List (List Char)) :
    ∀ cs, gather (some cs) (parts.map Item.text) = [.text (cs ++ parts.flatten)] := by
  induction parts with
  | nil =>
      intro cs
      rw [List.map_nil, gather, List.flatten_nil, List.append_nil]
      rfl
  | cons p r ih =>
      intro cs
      rw [List.map_cons, gather, ih, List.flatten_cons, Option.getD_some, List.append_assoc]

namespace Sim

variable {b c : Build}

theorem of_twins (h : Twins map style b c) : Sim map style b c :=
  ⟨[], b, c, h, rfl, rfl⟩

/-- **Where the text ends, both trees are the same but for it.** -/
theorem flush (h : Sim map style b c) : Twins map style b.flush c.flush := by
  obtain ⟨parts, b₀, c₀, htwins, rfl, rfl⟩ := h
  cases parts with
  | nil =>
      rw [List.map_nil, List.map_nil, List.flatMap_nil, List.map_nil, List.foldl_nil,
        List.foldl_nil, Build.flush_of_none htwins.ended, Build.flush_of_none htwins.ended']
      exact htwins
  | cons p r =>
      obtain ⟨ts, k, hts, hb⟩ := flush_items style
        ((p :: r).map Item.text) none b₀ htwins.ended
      obtain ⟨ts', k', hts', hc⟩ := flush_items (unescaped style)
        ((p :: r).flatMap (weave map)) none c₀ htwins.ended'
      -- one leaf in the one tree, texts and pictures in turn in the other
      rw [List.map_cons, gather, gather_texts] at hts
      rw [Build.textKind_congr htwins.opened.heads, keepsIn_congr htwins.opened.heads] at hts'
      cases hts with
      | cons hleaf hnil =>
          cases hnil
          obtain ⟨i, rfl⟩ := hleaf
          have hgrown := htwins.addAll
            (.text i b₀.textKind b₀.isReading_textKind (p :: r) hts' .nil)
          rw [List.append_nil] at hgrown
          rw [hb, hc]
          exact ⟨hgrown.opened, hgrown.root, hgrown.root', hgrown.below, rfl, rfl⟩

/-- **Whatever is read does the same to both**, but that a text is filled in the one. -/
theorem take (h : Sim map style b c) (p : Piece) :
    Sim map style (b.take p) ((refill map style p).foldl Build.take c) := by
  by_cases htext : ∃ cs, p = .text cs
  · -- the text goes on by a part
    obtain ⟨cs, rfl⟩ := htext
    obtain ⟨parts, b₀, c₀, htwins, rfl, rfl⟩ := h
    refine ⟨parts ++ [cs], b₀, c₀, htwins, ?_, ?_⟩
    · rw [List.map_append, List.map_append, List.foldl_append]
      rfl
    · rw [List.flatMap_append, List.flatMap_singleton, List.map_append, List.foldl_append]
      rfl
  · have hp : ∀ cs, p ≠ .text cs := fun cs heq => htext ⟨cs, heq⟩
    have hrefill : refill map style p = [p] := by
      cases p with
      | text cs => exact absurd rfl (hp cs)
      | _ => rfl
    rw [hrefill, List.foldl_cons, List.foldl_nil, Build.take_flush hp b, Build.take_flush hp c]
    exact of_twins (h.flush.take hp)

theorem foldl (h : Sim map style b c) (ps : List Piece) :
    Sim map style (ps.foldl Build.take b) ((ps.flatMap (refill map style)).foldl Build.take c) := by
  induction ps generalizing b c with
  | nil => exact h
  | cons p r ih =>
      rw [List.foldl_cons, List.flatMap_cons, List.foldl_append]
      exact ih (h.take p)

/-- Both trees are finished. -/
theorem finish (h : Sim map style b c) :
    Grafted map style false [b.finish.1] [c.finish.1] := by
  -- as many elements are still open in either tree
  have hlength : c.flush.opened.length = b.flush.opened.length := by
    rw [← List.length_map (f := Frame.head), h.flush.opened.heads, List.length_map]
  have hclosed := h.flush.closeMany b.flush.opened.length
  unfold Build.finish
  dsimp only
  rw [hlength, hclosed.root, hclosed.root']
  exact .element _ _ _ hclosed.below .nil

end Sim

/-! ## Filling a page -/

/-- **Filling a page changes texts alone**, if all that it changes is running text: what is read of
the filled page is what was read before, with its texts filled, and in the tree every element keeps
its place and its attributes. -/
theorem page_render {content : String} (h : InText map style none content.toList) :
    Markup.pieces (render map style content).toList =
        (Markup.pieces content.toList).flatMap (refill map style) ∧
      Grafted map style false [page content] [page (render map style content)] := by
  have hread : Markup.pieces (render map style content).toList =
      (Markup.pieces content.toList).flatMap (refill map style) := by
    rw [pieces_eq, pieces_eq, toList_render]
    exact h.pieces_rendered fun name hname => by cases hname
  refine ⟨hread, ?_⟩
  have hstart : Twins map style (Build.start 0) (Build.start 0) :=
    ⟨.nil, rfl, rfl, .nil, rfl, rfl⟩
  have hfinish := ((Sim.of_twins hstart).foldl (Markup.pieces content.toList)).finish
  rw [← hread] at hfinish
  exact hfinish

/-- One code, and the address of its picture. -/
def smiles : List (String × String) := [(":smile:", "/s.png")]

/-- A page with a code, an escaped code and a reference in its one paragraph. -/
theorem inText_greeting :
    InText smiles "" none "<p title=\"a\">Hi :smile: &amp; \\:wave\\:</p>".toList := by
  have hcut : "<p title=\"a\">Hi :smile: &amp; \\:wave\\:</p>".toList =
      writtenTag "p" [("title", "a")] ++
        ("Hi :smile: ".toList ++ ("&amp;".toList ++ (" \\:wave\\:".toList ++ "</p>".toList))) := by
    decide +kernel
  have hplain : Plain endsTagName "p" := ⟨by decide, by decide, by decide +kernel⟩
  have htitle : ∀ a ∈ [("title", "a")], Plain endsAttrName a.1 := by
    intro a ha
    obtain rfl := List.mem_singleton.mp ha
    exact ⟨by decide, by decide, by decide +kernel⟩
  have hstop : InText smiles "" none "</p>".toList := by
    refine .same (rendered_of_plain (by decide) (by decide)) fun ds hds => ?_
    have hread : piecesOf none "</p>".toList = [.stop "p"] := by decide +kernel
    rw [hread] at hds
    cases hds with
    | tail _ hds => cases hds
  have hwave : InText smiles "" none (" \\:wave\\:".toList ++ "</p>".toList) :=
    .text ⟨by decide, List.all_eq_true.mp (by decide)⟩ (not_running_of_head (by decide)) hstop
  have hreference : InText smiles "" none
      ("&amp;".toList ++ (" \\:wave\\:".toList ++ "</p>".toList)) := by
    have hread : next .feeding none ("&amp;".toList ++ (" \\:wave\\:".toList ++ "</p>".toList)) =
        .go [.text ['&']] none (" \\:wave\\:".toList ++ "</p>".toList) := rfl
    refine .step hread (fun _ h => absurd h (by decide)) ?_ (fun ds hds => ?_) hwave
    · have hlast : "&amp;".toList = "&amp".toList ++ [';'] := by decide
      rw [hlast, rendered_append_last (by decide), ← hlast,
        rendered_of_plain (by decide) (by decide)]
    · cases hds with
      | head => exact rendered_of_plain (by decide) (by decide)
      | tail _ hds => cases hds
  rw [hcut]
  refine .writtenTag hplain (by decide) htitle (rendered_of_plain (by decide) (by decide)) ?_
  rw [if_neg (by decide)]
  exact .text ⟨by decide, List.all_eq_true.mp (by decide)⟩ (not_running_of_head (by decide))
    hreference

/-- So its paragraph keeps its title, and a picture stands in its text. -/
theorem page_render_greeting :
    Markup.pieces (render smiles "" "<p title=\"a\">Hi :smile: &amp; \\:wave\\:</p>").toList =
        (Markup.pieces "<p title=\"a\">Hi :smile: &amp; \\:wave\\:</p>".toList).flatMap
          (refill smiles "") ∧
      Grafted smiles "" false [page "<p title=\"a\">Hi :smile: &amp; \\:wave\\:</p>"]
        [page (render smiles "" "<p title=\"a\">Hi :smile: &amp; \\:wave\\:</p>")] :=
  page_render inText_greeting

/-! ## Codes elsewhere -/

theorem toList_smile : (picture "/s.png" "smile" "").toList =
    "<img src=\"/s.png\" srcset=\"/s.png\" sizes=\"\" alt=\"smile\" title=\"smile\" ".toList ++
      ("class=\"sticker-emoji no-lightbox\" style=\"display:inline;".toList ++
        ("vertical-align:middle;background:none;border:none;box-shadow:none;\" ".toList ++
          "referrerpolicy=\"no-referrer\">".toList)) := by
  simp only [toList_picture, writtenTag, writtenAttrs, writtenAttr, pictureAttrs, List.flatMap_cons,
    List.flatMap_nil, escape, baseStyle, String.toList_append]
  repeat rw [String.toList_ofList]
  decide +kernel

/-- What the page becomes if there is one code in it. -/
theorem page_smiles {content front behind : String}
    (h : weave smiles content.toList =
      [.text front.toList, .picture "/s.png" "smile", .text behind.toList]) :
    page (render smiles "" content) =
      ((Markup.pieces
        (front.toList ++ ((picture "/s.png" "smile" "").toList ++ behind.toList))).foldl
          Build.take (Build.start 0)).finish.1 := by
  have hstyle : unescaped "" = "" := unescaped_of_not_mem (by decide)
  have hfilled : (render smiles "" content).toList =
      front.toList ++ ((picture "/s.png" "smile" "").toList ++ behind.toList) := by
    rw [toList_render, rendered_eq_weave, h, hstyle]
    simp [Item.chars]
  unfold page Markup.read
  rw [hfilled]

theorem title_smile :
    (⟨"a", [("title", .text ":smile:")]⟩ : Element) ∉
      elementsOf [page (render smiles "" "<a title=\":smile:\">x</a>")] := by
  have hfilled : weave smiles "<a title=\":smile:\">x</a>".toList =
      [.text "<a title=\"".toList, .picture "/s.png" "smile", .text "\">x</a>".toList] := by
    decide +kernel
  rw [page_smiles hfilled, toList_smile]
  repeat rw [String.toList_ofList]
  decide +kernel

theorem not_grafted_comment :
    ¬Grafted smiles "" false [page "<!--\\:smile\\:-->"]
      [page (render smiles "" "<!--\\:smile\\:-->")] :=
  fun h => absurd h.notesOf_eq (by decide +kernel)

theorem not_grafted_script :
    ¬Grafted smiles "" false [page "<script>:smile:</script>"]
      [page (render smiles "" "<script>:smile:</script>")] := by
  have hfilled : weave smiles "<script>:smile:</script>".toList =
      [.text "<script>".toList, .picture "/s.png" "smile", .text "</script>".toList] := by
    decide +kernel
  have hread : Markup.pieces
      ("<script>".toList ++ ((picture "/s.png" "smile" "").toList ++ "</script>".toList)) =
        [.start "script" [] false, .text (picture "/s.png" "smile" "").toList, .stop "script"] := by
    rw [toList_smile]
    repeat rw [String.toList_ofList]
    decide +kernel
  obtain ⟨t, ht⟩ := picture_head "/s.png" "smile" ""
  have hpage : page (render smiles "" "<script>:smile:</script>") =
      .element 0 ⟨rootName, []⟩ [.element 1 ⟨"script", []⟩
        [.leaf 2 .script (shown false (picture "/s.png" "smile" "").toList)]] := by
    rw [page_smiles hfilled, hread]
    generalize (picture "/s.png" "smile" "").toList = cs
    have hturned : (cs.reverse ++ []).reverse = cs := by simp
    refine Eq.trans (b := .element 0 ⟨rootName, []⟩ [.element 1 ⟨"script", []⟩
      [.leaf 2 .script (shown false (cs.reverse ++ []).reverse)]]) rfl ?_
    rw [hturned]
  intro h
  have hbracket := h.mem_charsOf (c := '<') (by decide)
  rw [hpage] at hbracket
  refine absurd (hbracket ?_) (by decide +kernel)
  rw [charsOf_element, charsOf_element, charsOf_leaf, List.mem_append, List.mem_append,
    List.mem_append, mem_shown (by decide), ht]
  exact .inl (.inl (.inl List.mem_cons_self))

theorem not_grafted_quote :
    ¬Grafted smiles "" false [page "<a b= \"c>:smile:</a>"]
      [page (render smiles "" "<a b= \"c>:smile:</a>")] := by
  have hfilled : weave smiles "<a b= \"c>:smile:</a>".toList =
      [.text "<a b= \"c>".toList, .picture "/s.png" "smile", .text "</a>".toList] := by
    decide +kernel
  have hbefore : ⟨"a", [("b", .text ""), ("\"c", .text "")]⟩ ∈
      elementsOf [page "<a b= \"c>:smile:</a>"] := by decide +kernel
  have hafter : (⟨"a", [("b", .text ""), ("\"c", .text "")]⟩ : Element) ∉
      elementsOf [page (render smiles "" "<a b= \"c>:smile:</a>")] := by
    rw [page_smiles hfilled, toList_smile]
    repeat rw [String.toList_ofList]
    decide +kernel
  exact fun h => hafter (h.sublist_elementsOf.subset hbefore)

theorem not_grafted_cutShort :
    ¬Grafted smiles "" false [page "<a :smile: "] [page (render smiles "" "<a :smile: ")] := by
  have hfilled : weave smiles "<a :smile: ".toList =
      [.text "<a ".toList, .picture "/s.png" "smile", .text " ".toList] := by
    decide +kernel
  have hbefore : ∀ e ∈ elementsOf [page "<a :smile: "], e.name ≠ "a" := by decide +kernel
  have hafter : ∃ e ∈ elementsOf [page (render smiles "" "<a :smile: ")], e.name = "a" := by
    rw [page_smiles hfilled, toList_smile]
    repeat rw [String.toList_ofList]
    decide +kernel
  intro h
  obtain ⟨e, he, hname⟩ := hafter
  rcases h.mem_elementsOf e he with hold | ⟨url, alt, rfl⟩
  · exact hbefore e hold hname
  · have himg : "img" = "a" := hname
    exact absurd himg (by decide)

/-- **Codes elsewhere do not leave the page as it was.** A code in a tag changes the attribute that
it stands in. An escaped code changes a comment. A code in a script puts a tag into its text. Behind
a tag with a quote mark left open the tag reads on into the picture, and where the reading was cut
short the picture ends the tag. -/
theorem not_grafted_elsewhere :
    (⟨"a", [("title", .text ":smile:")]⟩ ∈ elementsOf [page "<a title=\":smile:\">x</a>"] ∧
      ⟨"a", [("title", .text ":smile:")]⟩ ∉
        elementsOf [page (render smiles "" "<a title=\":smile:\">x</a>")]) ∧
    ¬Grafted smiles "" false [page "<!--\\:smile\\:-->"]
      [page (render smiles "" "<!--\\:smile\\:-->")] ∧
    ¬Grafted smiles "" false [page "<script>:smile:</script>"]
      [page (render smiles "" "<script>:smile:</script>")] ∧
    ¬Grafted smiles "" false [page "<a b= \"c>:smile:</a>"]
      [page (render smiles "" "<a b= \"c>:smile:</a>")] ∧
    ¬Grafted smiles "" false [page "<a :smile: "] [page (render smiles "" "<a :smile: ")] :=
  ⟨⟨by decide +kernel, title_smile⟩, not_grafted_comment, not_grafted_script, not_grafted_quote,
    not_grafted_cutShort⟩

end StickerPages.Content
