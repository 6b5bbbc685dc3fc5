import Mathlib.Data.List.Perm.Basic
import StickerPages.Markup.Reader
import StickerPages.Proofs.Numbering

/-!
# Reading gives every node a number of its own

The reader counts: whenever a node comes into being it takes the next number, and no other step of
the reading makes a number or loses one. So at every moment of a reading the numbers handed out so
far are numbers between the first one and the next one, and none was handed out twice (`Drawn`).
Where a node stands while the tree is under construction does not matter for that, and
`Build.numbers` forgets it: an open element's children so far are listed in reverse, and the
listings of two moments are compared up to their order.
-/

namespace StickerPages.Markup

/-- Numbers drawn from a counter that stood at `lo` and now stands at `hi`: none was drawn twice. -/
structure Drawn (lo hi : Nat) (is : List Nat) : Prop where
  nodup : is.Nodup
  bounds : ∀ i ∈ is, lo ≤ i ∧ i < hi

namespace Drawn

variable {lo mid hi : Nat} {is js : List Nat}

theorem nil (lo hi : Nat) : Drawn lo hi [] :=
  ⟨List.nodup_nil, fun _ h => absurd h List.not_mem_nil⟩

theorem perm (h : Drawn lo hi is) (hp : js.Perm is) : Drawn lo hi js :=
  ⟨hp.nodup_iff.mpr h.nodup, fun i hi => h.bounds i (hp.mem_iff.mp hi)⟩

theorem sublist (h : Drawn lo hi is) (hs : js.Sublist is) : Drawn lo hi js :=
  ⟨hs.nodup h.nodup, fun i hi => h.bounds i (hs.subset hi)⟩

/-- Drawing one more. -/
theorem cons (h : Drawn lo hi is) (hle : lo ≤ hi) : Drawn lo (hi + 1) (hi :: is) where
  nodup := by
    rw [List.nodup_cons]
    exact ⟨fun hm => absurd (h.bounds hi hm).2 (Nat.lt_irrefl hi), h.nodup⟩
  bounds := by
    intro i hm
    rcases List.mem_cons.mp hm with rfl | hm
    · exact ⟨hle, Nat.lt_succ_self i⟩
    · have := h.bounds i hm
      omega

/-- What was drawn before and what was drawn after have nothing in common. -/
theorem append (h : Drawn lo mid is) (h' : Drawn mid hi js) (h1 : lo ≤ mid) (h2 : mid ≤ hi) :
    Drawn lo hi (is ++ js) where
  nodup := by
    refine List.nodup_append.mpr ⟨h.nodup, h'.nodup, fun i hi j hj he => ?_⟩
    have hlt := (h.bounds i hi).2
    have hge := (h'.bounds j hj).1
    omega
  bounds := by
    intro i hm
    rcases List.mem_append.mp hm with hm | hm
    · have := h.bounds i hm
      omega
    · have := h'.bounds i hm
      omega

end Drawn

theorem Node.idsOfAll_reverse (ns : List Node) : (idsOfAll ns.reverse).Perm (idsOfAll ns) :=
  (List.reverse_perm ns).flatMap_right ids

/-- The numbers of an open element and of its children so far. -/
def Frame.numbers (f : Frame) : List Nat :=
  f.id :: Node.idsOfAll f.children

namespace Build

/-- The numbers of the tree under construction, in no particular order. -/
def numbers (b : Build) : List Nat :=
  b.root.numbers ++ b.opened.flatMap Frame.numbers

/-- What reading keeps: the numbers given so far were drawn one after the other. -/
def Counted (first : Nat) (b : Build) : Prop :=
  Drawn first b.nextId b.numbers

theorem numbers_add (b : Build) (n : Node) : (b.add n).numbers.Perm (n.ids ++ b.numbers) := by
  rw [List.perm_iff_count]
  intro i
  unfold add
  split
  next h =>
    simp only [numbers, Frame.numbers, h, Node.idsOfAll_cons, List.count_append, List.count_cons]
    omega
  next f r h =>
    simp only [numbers, Frame.numbers, h, Node.idsOfAll_cons, List.flatMap_cons, List.count_append,
      List.count_cons]
    omega

@[simp]
theorem nextId_add (b : Build) (n : Node) : (b.add n).nextId = b.nextId := by
  unfold add
  split <;> rfl

theorem numbers_close (b : Build) : b.close.numbers.Perm b.numbers := by
  unfold close
  split
  next => exact List.Perm.refl _
  next f r h =>
    refine (numbers_add _ _).trans ?_
    have hids : (Node.element f.id f.head f.children.reverse).ids.Perm f.numbers := by
      rw [Node.ids_element]
      exact (Node.idsOfAll_reverse f.children).cons f.id
    refine (hids.append_right _).trans ?_
    rw [numbers, numbers, h, List.flatMap_cons]
    exact List.perm_append_comm_assoc _ _ _

theorem nextId_close (b : Build) : b.close.nextId = b.nextId := by
  unfold close
  split <;> simp

namespace Counted

variable {first : Nat} {b : Build}

theorem first_le (h : Counted first b) : first ≤ b.nextId := by
  have hroot : b.root.id ∈ b.numbers := List.mem_append_left _ List.mem_cons_self
  have := h.bounds _ hroot
  omega

theorem close (h : Counted first b) : Counted first b.close := by
  rw [Counted, nextId_close]
  exact h.perm (numbers_close b)

theorem closeMany (n : Nat) : ∀ {b : Build}, Counted first b → Counted first (b.closeMany n) := by
  induction n with
  | zero => exact fun h => h
  | succ n ih => exact fun h => ih h.close

theorem closeTo (h : Counted first b) (name : String) : Counted first (b.closeTo name) := by
  unfold Build.closeTo
  split
  · exact h.closeMany _
  · exact h

/-- A node that took the next number, with nothing below it. -/
theorem leaf (h : Counted first b) {n : Node} (hn : n.ids = [b.nextId]) :
    Counted first { b.add n with nextId := b.nextId + 1 } := by
  refine (h.cons h.first_le).perm ?_
  have := numbers_add b n
  rw [hn] at this
  exact this

theorem addLeaf (h : Counted first b) (kind : TextKind) (cs : List Char) :
    Counted first (b.addLeaf kind cs) :=
  h.leaf rfl

theorem flush (h : Counted first b) : Counted first b.flush := by
  unfold Build.flush
  split
  next => exact h
  next => exact addLeaf (b := { b with pending := none }) h _ _

theorem take (h : Counted first b) (piece : Piece) : Counted first (b.take piece) := by
  cases piece with
  | text cs => exact h
  | note kind cs => exact h.flush.addLeaf kind cs
  | stop name => exact h.flush.closeTo name
  | start name attrs closed =>
      unfold Build.take
      dsimp only
      split
      · exact h.flush.leaf rfl
      · -- the element opens: its number is drawn, and it has no children yet
        refine (h.flush.cons h.flush.first_le).perm ?_
        rw [numbers, numbers, List.flatMap_cons]
        exact List.perm_middle

theorem foldl_take (pieces : List Piece) :
    ∀ {b : Build}, Counted first b → Counted first (pieces.foldl Build.take b) := by
  induction pieces with
  | nil => exact fun h => h
  | cons p r ih => exact fun h => ih (h.take p)

theorem start (first : Nat) : Counted first (Build.start first) where
  nodup := List.nodup_singleton first
  bounds := by
    intro i hi
    rw [List.mem_singleton.mp hi]
    exact ⟨Nat.le_refl first, Nat.lt_succ_self first⟩

theorem finish (h : Counted first b) :
    Drawn first b.finish.2 b.finish.1.ids ∧ first ≤ b.finish.2 := by
  have hb := h.flush.closeMany b.flush.opened.length
  refine ⟨?_, hb.first_le⟩
  refine Drawn.perm (hb.sublist (List.sublist_append_left ..)) ?_
  unfold Build.finish
  rw [Node.ids_element]
  exact (Node.idsOfAll_reverse _).cons _

end Counted

end Build

/-- **Reading gives every node a number of its own**, counting on from the first. -/
theorem read_drawn (first : Nat) (markup : String) :
    Drawn first (read first markup).2 (read first markup).1.ids ∧
      first ≤ (read first markup).2 :=
  ((Build.Counted.start first).foldl_take (pieces markup.toList)).finish

/-- A page just read is numbered. -/
theorem page_numbered (markup : String) : (page markup).Numbered :=
  (read_drawn 0 markup).1.nodup

end StickerPages.Markup
