import StickerPages.Layout.Sweep

/-!
# Writing one class and leaving the others

A marker is a class that the layout owns. Taking it off and putting it on again are the only things
a sweep does to a class attribute, and together they make one operation, `Marker.put`: afterwards
the class is there exactly if it was called for, and every other class is where it was.

An image is recognised as a sticker by a class that is none of the markers. So an image that a
search has found is found again, whatever a sweep has written (`Findable.put`,
`findable_style_iff`). The converse needs care, because a search does not look into a class
attribute that is one text: an image that it has *not* found is found later only if somebody
rewrites its classes, and a sweep never does that to an image it has not found.
-/

namespace StickerPages

/-! ## Pairs and words -/

namespace Pairs

variable {κ ν : Type} [BEq κ] [LawfulBEq κ]

theorem lookup_erase_self (es : List (κ × ν)) (k : κ) : (erase es k).lookup k = none := by
  rw [erase, List.lookup_eq_none_iff]
  intro e he
  have hne : (e.1 == k) = false := by simpa using (List.mem_filter.mp he).2
  rw [bne, BEq.comm, hne]
  rfl

end Pairs

/-- A text that can stand in a list of words: not empty, and without blanks. -/
def IsWord (s : String) : Prop :=
  s ≠ "" ∧ ∀ c ∈ s.toList, Text.isBlank c = false

theorem isWord_of_any {s : String} (hne : s ≠ "") (h : s.toList.any Text.isBlank = false) :
    IsWord s :=
  ⟨hne, fun c hc => by simpa using List.any_eq_false.mp h c hc⟩

theorem Text.wordsFrom_solid (cs word : List Char) (h : ∀ c ∈ cs, isBlank c = false)
    (hne : word ++ cs ≠ []) : wordsFrom word cs = [word.reverse ++ cs] := by
  induction cs generalizing word with
  | nil =>
      have : word ≠ [] := by simpa using hne
      simp [wordsFrom, this]
  | cons c r ih =>
      rw [wordsFrom, if_neg (by simp [h c List.mem_cons_self]),
        ih (c :: word) (fun d hd => h d (List.mem_cons_of_mem _ hd)) (by simp)]
      simp

theorem IsWord.blankSeparated {s : String} (h : IsWord s) : s.blankSeparated = [s] := by
  have hne : ([] : List Char) ++ s.toList ≠ [] := by simpa using h.1
  rw [String.blankSeparated, Text.words, Text.wordsFrom_solid s.toList [] h.2 hne]
  simp

/-- Joined words are no single word, unless there is only one. -/
theorem IsWord.ne_joined {s : String} (h : IsWord s) {ws : List String} (hl : ws.length ≠ 1) :
    " ".intercalate ws ≠ s := by
  intro heq
  match ws, hl with
  | [], _ => exact h.1 (by rw [← heq]; rfl)
  | a :: b :: r, _ =>
      have hmem : ' ' ∈ s.toList := by
        rw [← heq, String.intercalate_cons_cons]
        simp
      exact absurd (h.2 ' ' hmem) (by decide)

namespace Layout

open Markup Style

/-- The element carries a class. -/
def carries (name : String) (n : Node) : Bool :=
  match n.head? with
  | some h => h.classes.contains name
  | none => false

/-! ## What the writing of one class leaves -/

theorem classes_withAttr_words (e : Element) (ws : List String) :
    (e.withAttr "class" (.words ws)).classes = ws := by
  simp [Element.classes, Element.attr?, Element.withAttr, Pairs.lookup_put_self, AttrValue.split]

theorem classes_withoutAttr (e : Element) : (e.withoutAttr "class").classes = [] := by
  simp [Element.classes, Element.attr?, Element.withoutAttr, Pairs.lookup_erase_self]

theorem classes_withAttr_other (e : Element) {name : String} (v : AttrValue)
    (hn : "class" ≠ name) : (e.withAttr name v).classes = e.classes := by
  simp [Element.classes, Element.attr?, Element.withAttr, Pairs.lookup_put_other _ _ hn]

namespace Marker

/-- A marker taken off, and put on again if it is called for. -/
def put (name : String) (called : Bool) (e : Element) : Element :=
  if called then add name (remove name e) else remove name e

@[simp]
theorem name_add (name : String) (e : Element) : (add name e).name = e.name := by
  unfold add
  split <;> rfl

@[simp]
theorem name_remove (name : String) (e : Element) : (remove name e).name = e.name := by
  unfold remove
  split
  · dsimp only
    split <;> rfl
  · rfl

@[simp]
theorem name_put (name : String) (called : Bool) (e : Element) :
    (put name called e).name = e.name := by
  unfold put
  split <;> simp

theorem classes_add (name : String) (e : Element) :
    (add name e).classes =
      if e.classes.contains name then e.classes else e.classes ++ [name] := by
  unfold add
  split
  · rfl
  · rw [classes_withAttr_words]

theorem classes_remove (name : String) (e : Element) :
    (remove name e).classes = e.classes.filter (· != name) := by
  unfold remove
  split
  · dsimp only
    split
    · rename_i hk
      rw [classes_withoutAttr, List.isEmpty_iff.mp hk]
    · rw [classes_withAttr_words]
  · rename_i hc
    refine (List.filter_eq_self.mpr fun w hw => ?_).symm
    have hne : w ≠ name := by
      rintro rfl
      exact hc (List.contains_iff_mem.mpr hw)
    simpa using hne

/-- **Afterwards the marker is there exactly if it was called for.** -/
theorem contains_put_self (name : String) (called : Bool) (e : Element) :
    (put name called e).classes.contains name = called := by
  have hoff : name ∉ (remove name e).classes := by simp [classes_remove]
  cases called with
  | false => simpa [put] using hoff
  | true => simp [put, classes_add, hoff]

/-- Every other class is there if it was. -/
theorem contains_put_other {name other : String} (called : Bool) (e : Element)
    (h : other ≠ name) : (put name called e).classes.contains other = e.classes.contains other := by
  have hoff : other ∈ (remove name e).classes ↔ other ∈ e.classes := by simp [classes_remove, h]
  rw [Bool.eq_iff_iff, List.contains_iff_mem, List.contains_iff_mem, ← hoff]
  cases called with
  | false => rfl
  | true =>
      rw [put, if_pos rfl, classes_add]
      split
      · rfl
      · simp [h]

end Marker

/-! ## A sticker that was found is found again -/

/-- What makes an element a sticker that a search finds; its number and its children do not. -/
def Findable (stickerClass : String) (h : Element) : Prop :=
  isFound stickerClass (.element 0 h []) = true

theorem findable_of_words {stickerClass : String} {h : Element} {ws : List String}
    (hname : h.name = "img") (hattr : h.attr? "class" = some (.words ws))
    (hmem : stickerClass ∈ ws) : Findable stickerClass h := by
  simp [Findable, isFound, hname, hattr, meetsClass, hmem]

/-- A sticker that a search finds has the sticker class among its classes. -/
theorem Findable.mem_classes {stickerClass : String} {h : Element} (hw : IsWord stickerClass)
    (hf : Findable stickerClass h) : h.name = "img" ∧ stickerClass ∈ h.classes := by
  unfold Findable isFound at hf
  rw [Bool.and_eq_true, beq_iff_eq] at hf
  refine ⟨hf.1, ?_⟩
  unfold Element.classes
  cases ha : h.attr? "class" with
  | none => simp [ha] at hf
  | some v =>
      have hm : meetsClass stickerClass v = true := by simpa [ha] using hf.2
      have one {t : String} (ht : t = stickerClass) : stickerClass ∈ t.blankSeparated := by
        rw [ht, hw.blankSeparated]
        exact List.mem_singleton_self _
      cases v with
      | words ws =>
          rw [meetsClass, Bool.or_eq_true, Bool.and_eq_true, List.contains_iff_mem] at hm
          rcases hm with hm | ⟨hl, hj⟩
          · exact hm
          · exact absurd (beq_iff_eq.mp hj) (hw.ne_joined (by simpa using hl))
      | text s => exact one (beq_iff_eq.mp hm)
      | recoded d w => exact one (beq_iff_eq.mp hm)

theorem Findable.put {stickerClass name : String} {h : Element} (hw : IsWord stickerClass)
    (hne : stickerClass ≠ name) (called : Bool) (hf : Findable stickerClass h) :
    Findable stickerClass (Marker.put name called h) := by
  have removed {e : Element} (he : Findable stickerClass e) :
      Findable stickerClass (Marker.remove name e) := by
    obtain ⟨himg, hmem⟩ := he.mem_classes hw
    unfold Marker.remove
    split
    · have hkept : stickerClass ∈ e.classes.filter (· != name) := by simp [hmem, hne]
      have : (e.classes.filter (· != name)).isEmpty = false := by
        simpa using List.ne_nil_of_mem hkept
      simp only [this, Bool.false_eq_true, if_false]
      exact findable_of_words himg (Pairs.lookup_put_self ..) hkept
    · exact he
  have added {e : Element} (he : Findable stickerClass e) :
      Findable stickerClass (Marker.add name e) := by
    obtain ⟨himg, hmem⟩ := he.mem_classes hw
    unfold Marker.add
    split
    · exact he
    · exact findable_of_words himg (Pairs.lookup_put_self ..) (List.mem_append_left _ hmem)
  unfold Marker.put
  split
  · exact added (removed hf)
  · exact removed hf

theorem findable_style_iff (stickerClass : String) (sizes : Sizes) (solo : Bool) (h : Element) :
    Findable stickerClass (sizes.style solo h) ↔ Findable stickerClass h := by
  have hattr : (sizes.style solo h).attr? "class" = h.attr? "class" :=
    Pairs.lookup_put_other _ _ (by decide)
  have hname : (sizes.style solo h).name = h.name := rfl
  simp only [Findable, isFound, hattr, hname]

end Layout

end StickerPages
