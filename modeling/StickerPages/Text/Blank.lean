/-!
# Blank characters

What counts as blank between words: the white space and separator characters of Unicode together
with the four information separators U+001C to U+001F. Everything in this library that trims a
text, cuts it into words or asks whether it is empty to the eye uses this one class.

`words_noBlank` says what cutting into words leaves: pieces free of blanks. `trimmed_trim` and
`Trimmed.trim` say what trimming leaves, and what it leaves alone: texts with no blank at either end.
-/

namespace StickerPages.Text

/-- White space of Unicode, and the information separators U+001C to U+001F. -/
def isBlank (c : Char) : Bool :=
  let n := c.toNat
  (0x09 ≤ n && n ≤ 0x0D) || (0x1C ≤ n && n ≤ 0x20) || n == 0x85 || n == 0xA0 || n == 0x1680 ||
    (0x2000 ≤ n && n ≤ 0x200A) || n == 0x2028 || n == 0x2029 || n == 0x202F || n == 0x205F ||
    n == 0x3000

/-- Nothing but blanks; the empty text too. -/
def allBlank (cs : List Char) : Bool :=
  cs.all isBlank

/-- Drops blanks in front. -/
def trimLeft (cs : List Char) : List Char :=
  cs.dropWhile isBlank

/-- Drops blanks at the end. -/
def trimRight (cs : List Char) : List Char :=
  (cs.reverse.dropWhile isBlank).reverse

/-- Drops blanks on both sides. -/
def trim (cs : List Char) : List Char :=
  trimRight (trimLeft cs)

/-- One word is collected in `word`, in reverse; a blank ends it. -/
def wordsFrom (word : List Char) : List Char → List (List Char)
  | [] => if word.isEmpty then [] else [word.reverse]
  | c :: r =>
    if isBlank c then
      if word.isEmpty then wordsFrom [] r else word.reverse :: wordsFrom [] r
    else wordsFrom (c :: word) r

/-- The maximal runs of characters that are not blank, in order. -/
def words (cs : List Char) : List (List Char) :=
  wordsFrom [] cs

theorem trimLeft_cons_blank {c : Char} (h : isBlank c = true) (cs : List Char) :
    trimLeft (c :: cs) = trimLeft cs := by
  simp [trimLeft, h]

theorem trimLeft_cons_solid {c : Char} (h : isBlank c = false) (cs : List Char) :
    trimLeft (c :: cs) = c :: cs := by
  simp [trimLeft, h]

/-- No blank stands at either end. -/
structure Trimmed (cs : List Char) : Prop where
  head : ∀ c ∈ cs.head?, isBlank c = false
  last : ∀ c ∈ cs.getLast?, isBlank c = false

theorem trimmed_trim (cs : List Char) : Trimmed (trim cs) where
  head c hc := by
    have hleft := List.head?_dropWhile_not isBlank cs
    obtain ⟨t, ht⟩ : trim cs <+: trimLeft cs := by
      have h := List.reverse_prefix.mpr (List.dropWhile_suffix (l := (trimLeft cs).reverse) isBlank)
      rwa [List.reverse_reverse] at h
    have hhead : (trimLeft cs).head? = some c := by
      rw [← ht, List.head?_append, hc]
      rfl
    rw [trimLeft] at hhead
    rw [hhead] at hleft
    simpa using hleft
  last c hc := by
    have hright := List.head?_dropWhile_not isBlank (trimLeft cs).reverse
    rw [trim, trimRight, List.getLast?_reverse] at hc
    rw [hc] at hright
    simpa using hright

theorem mem_of_mem_trim {cs : List Char} {c : Char} (h : c ∈ trim cs) : c ∈ cs := by
  rw [trim, trimRight, List.mem_reverse] at h
  have hleft := List.mem_reverse.mp ((List.dropWhile_suffix isBlank).subset h)
  exact (List.dropWhile_suffix isBlank).subset hleft

theorem trimLeft_of_head {cs : List Char} (h : ∀ c ∈ cs.head?, isBlank c = false) :
    trimLeft cs = cs := by
  cases cs with
  | nil => rfl
  | cons c r => exact trimLeft_cons_solid (h c rfl) r

theorem Trimmed.trim {cs : List Char} (h : Trimmed cs) : trim cs = cs := by
  have hreverse : trimLeft cs.reverse = cs.reverse :=
    trimLeft_of_head fun c hc => h.last c (by rwa [List.head?_reverse] at hc)
  rw [Text.trim, trimLeft_of_head h.head, trimRight]
  rw [trimLeft] at hreverse
  rw [hreverse, List.reverse_reverse]

/-- Every word is free of blanks. -/
theorem wordsFrom_noBlank (word cs : List Char) (hw : ∀ c ∈ word, isBlank c = false) :
    ∀ w ∈ wordsFrom word cs, ∀ c ∈ w, isBlank c = false := by
  induction cs generalizing word with
  | nil =>
    intro w hmem c hc
    unfold wordsFrom at hmem
    split at hmem
    · simp at hmem
    · simp only [List.mem_singleton] at hmem
      subst hmem
      exact hw c (List.mem_reverse.mp hc)
  | cons d r ih =>
    intro w hmem c hc
    unfold wordsFrom at hmem
    split at hmem
    · split at hmem
      · exact ih [] (by simp) w hmem c hc
      · rcases List.mem_cons.mp hmem with rfl | hmem
        · exact hw c (List.mem_reverse.mp hc)
        · exact ih [] (by simp) w hmem c hc
    · rename_i hd
      refine ih (d :: word) ?_ w hmem c hc
      intro e he
      rcases List.mem_cons.mp he with rfl | he
      · simpa using hd
      · exact hw e he

theorem words_noBlank (cs : List Char) : ∀ w ∈ words cs, ∀ c ∈ w, isBlank c = false :=
  wordsFrom_noBlank [] cs (by simp)

end StickerPages.Text

namespace String

/-- The text without the blanks at its two ends. -/
def trimBlanks (s : String) : String :=
  String.ofList (StickerPages.Text.trim s.toList)

/-- The words of the text: its maximal runs without blanks. -/
def blankSeparated (s : String) : List String :=
  (StickerPages.Text.words s.toList).map String.ofList

/-- Empty, or nothing but blanks. -/
def isBlankText (s : String) : Bool :=
  StickerPages.Text.allBlank s.toList

end String
