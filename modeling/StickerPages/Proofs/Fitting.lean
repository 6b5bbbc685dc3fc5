import StickerPages.Proofs.Rereading
import StickerPages.Proofs.Reworking
import StickerPages.Proofs.Sheets

/-!
# Sizes that fit into a style

A size is free text. It comes from the settings or from a style sheet, and it is written into the
style of an image as it is, with the word that makes it count behind it. What is written then should
still be six declarations, and the word should stand once in each.

Whether it does is a matter of the size alone (`style_holds_iff`). The six are read back exactly if
the size leaves nothing open (`Sealed`); a backslash at its end does no harm, for it takes the
meaning of a blank. And the word stands twice exactly if the size brought it along.
-/

namespace StickerPages.Style

open Markup

variable {sizes : Sizes} {s t : Cursor} {c : Char} {cs plain : List Char} {size name : String}
  {solo : Bool}

/-! ## Readings that go over ordinary characters -/

theorem Cursor.over_append (separator : Char) (s : Cursor) (xs ys : List Char) :
    s.over separator (xs ++ ys) = (s.over separator xs).bind (·.over separator ys) :=
  List.foldlM_append

/-- The quote that is open, if any, was opened by a quote mark. -/
def Cursor.Marked (s : Cursor) : Prop := ∀ q, s.quote = some q → q = '"' ∨ q = '\''

theorem Cursor.Marked.advance (hs : s.Marked) (h : s.advance ';' c = some t) : t.Marked := by
  obtain ⟨depth, quote, escaped⟩ := s
  unfold Cursor.advance at h
  unfold Cursor.Marked at hs ⊢
  grind

theorem Cursor.Marked.over (hs : s.Marked) (h : s.over ';' cs = some t) : t.Marked := by
  induction cs generalizing s with
  | nil =>
      cases h
      exact hs
  | cons c r ih =>
      obtain ⟨u, hu, hr⟩ := Option.bind_eq_some_iff.mp h
      exact ih (hs.advance hu) hr

/-- The characters that mean something to a reading. -/
def special : List Char := ['\\', '"', '\'', '(', ')', ';']

/-- None of the characters means anything to a reading. -/
def Ordinary (cs : List Char) : Prop := ∀ c ∈ cs, c ∉ special

instance : DecidablePred Ordinary := List.decidableBAll (· ∉ special)

theorem Cursor.Marked.advance_plain (hs : s.Marked) (hc : c ∉ special) :
    s.advance ';' c = some { s with escaped := false } := by
  obtain ⟨depth, quote, escaped⟩ := s
  simp only [special, List.mem_cons, List.not_mem_nil, or_false, not_or] at hc
  unfold Cursor.Marked at hs
  unfold Cursor.advance
  grind

/-- Of ordinary characters only the first matters, and only if a backslash stands in front. -/
theorem Cursor.Marked.over_plain (hs : s.Marked) (hne : plain ≠ []) (hplain : Ordinary plain) :
    s.over ';' plain = some { s with escaped := false } := by
  induction plain generalizing s with
  | nil => exact absurd rfl hne
  | cons c r ih =>
      rw [Ordinary, List.forall_mem_cons] at hplain
      rw [Cursor.over, List.foldlM_cons, hs.advance_plain hplain.1]
      by_cases hr : r = []
      · rw [hr]
        rfl
      · exact ih (s := { s with escaped := false }) hs hr hplain.2

/-! ## Sizes that leave nothing open -/

/-- The size, with a blank behind it, leaves nothing open, and no semicolon in it ends anything. -/
def Sealed (size : String) : Prop := Cursor.outside.over ';' (size.toList ++ [' ']) = some .outside

instance : DecidablePred Sealed := fun size =>
  inferInstanceAs (Decidable (Cursor.outside.over ';' (size.toList ++ [' ']) = some .outside))

/-- Behind a text it does not matter which ordinary characters come. -/
theorem over_append_plain {plain' : List Char} (hne : plain ≠ []) (hne' : plain' ≠ [])
    (hplain : Ordinary plain) (hplain' : Ordinary plain') (cs : List Char) :
    Cursor.outside.over ';' (cs ++ plain) = Cursor.outside.over ';' (cs ++ plain') := by
  rw [Cursor.over_append, Cursor.over_append]
  refine Option.bind_congr fun t ht => ?_
  have houtside : Cursor.outside.Marked := fun q hq => by cases hq
  have hmarked : t.Marked := houtside.over ht
  rw [hmarked.over_plain hne hplain, hmarked.over_plain hne' hplain']

/-- **A declaration of a size leaves nothing open exactly if the size does not.** -/
theorem whole_important_iff (hname : Cursor.outside.over ';' (name.toList ++ [':', ' ']) =
    some .outside) : Whole (name, size ++ " !important") ↔ Sealed size := by
  have hwritten : written (name, size ++ " !important") =
      name.toList ++ [':', ' '] ++ (size.toList ++ " !important".toList) := by
    simp [written]
  have hplain : Cursor.outside.over ';' (size.toList ++ " !important".toList) =
      Cursor.outside.over ';' (size.toList ++ [' ']) :=
    over_append_plain (by decide) (by decide) (by decide) (by decide) _
  rw [Whole, hwritten, Cursor.over_append, hname, Option.bind_some, hplain, Sealed]

/-- The size that is written into the style of a sticker. -/
def Sizes.chosen (sizes : Sizes) (solo : Bool) : String := if solo then sizes.solo else sizes.inline

theorem whole_forced_iff (sizes : Sizes) (solo : Bool) :
    (∀ d ∈ sizes.forced solo, Whole d) ↔ Sealed (sizes.chosen solo) := by
  have hwidth : Whole ("max-width", sizes.chosen solo ++ " !important") ↔
      Sealed (sizes.chosen solo) := whole_important_iff (by decide)
  have hheight : Whole ("max-height", sizes.chosen solo ++ " !important") ↔
      Sealed (sizes.chosen solo) := whole_important_iff (by decide)
  have hothers : ∀ d ∈ [("width", "auto !important"), ("height", "auto !important"),
      ("display", "inline !important"), ("vertical-align", "middle !important")], Whole d := by
    decide
  rw [Sizes.forced, List.forall_mem_cons, List.forall_mem_cons]
  exact ⟨fun h => hwidth.mp h.1, fun h => ⟨hwidth.mpr h, hheight.mpr h, hothers⟩⟩

/-! ## The word that makes a value count -/

/-- The word that makes a value count whatever other styles say. -/
def important : List Char := "!important".toList

/-- The text ends with the word, and what stands in front of that does not. -/
def EndsOnce (word cs : List Char) : Prop :=
  ∃ front, cs = front ++ word ∧ ¬word <:+ Text.trimRight front

/-- **The word stands twice exactly if the size brought it along.** -/
theorem endsOnce_important_iff (h : Text.Trimmed size.toList) :
    EndsOnce important (size ++ " !important").toList ↔ ¬important <:+ size.toList := by
  have hvalue : (size ++ " !important").toList = (size.toList ++ [' ']) ++ important := by
    rw [String.toList_append, List.append_assoc]
    rfl
  have hfront : Text.trimRight (size.toList ++ [' ']) = size.toList := by
    have hlast : ∀ c ∈ size.toList.reverse.head?, Text.isBlank c = false := by
      rw [List.head?_reverse]
      exact h.last
    have hdrop : (' ' :: size.toList.reverse).dropWhile Text.isBlank = size.toList.reverse :=
      (Text.trimLeft_cons_blank (by decide) _).trans (Text.trimLeft_of_head hlast)
    rw [Text.trimRight, List.reverse_append, List.reverse_singleton, List.singleton_append, hdrop,
      List.reverse_reverse]
  rw [EndsOnce, hvalue]
  constructor
  · rintro ⟨front, hsame, honce⟩
    rwa [← List.append_cancel_right hsame, hfront] at honce
  · exact fun h => ⟨_, rfl, by rwa [hfront]⟩

theorem endsOnce_forced_iff (h : Text.Trimmed (sizes.chosen solo).toList) :
    (∀ d ∈ sizes.forced solo, EndsOnce important d.2.toList) ↔
      ¬important <:+ (sizes.chosen solo).toList := by
  have hsize := endsOnce_important_iff h
  have hword (value : String) (hends : Text.Trimmed value.toList)
      (hnone : ¬important <:+ value.toList) :
      EndsOnce important (value ++ " !important").toList :=
    (endsOnce_important_iff hends).mpr hnone
  have hauto := hword "auto" (trimmed_of_ends (by decide) (by decide)) (by decide)
  have hinline := hword "inline" (trimmed_of_ends (by decide) (by decide)) (by decide)
  have hmiddle := hword "middle" (trimmed_of_ends (by decide) (by decide)) (by decide)
  simp only [Sizes.forced, List.forall_mem_cons]
  exact ⟨fun h => hsize.mp h.1, fun h => ⟨hsize.mpr h, hsize.mpr h, hauto, hauto, hinline, hmiddle,
    List.forall_mem_nil _⟩⟩

/-! ## What is read back -/

/-- Declarations hold a sticker to a size: they are the six that were written, each made to count
once, and the greatest width and height are that size. -/
structure HoldsTo (sizes : Sizes) (solo : Bool) (ds : Declarations) : Prop where
  forced : ds = sizes.forced solo
  names : ds.map (·.1) = forcedNames
  once : ∀ d ∈ ds, EndsOnce important d.2.toList
  width : ds.lookup "max-width" = some (sizes.chosen solo ++ " !important")
  height : ds.lookup "max-height" = some (sizes.chosen solo ++ " !important")

theorem holdsTo_iff {ds : Declarations} (h : Text.Trimmed (sizes.chosen solo).toList) :
    HoldsTo sizes solo ds ↔
      ds = sizes.forced solo ∧ ¬important <:+ (sizes.chosen solo).toList := by
  rw [← endsOnce_forced_iff h]
  constructor
  · exact fun hds => ⟨hds.forced, hds.forced ▸ hds.once⟩
  · rintro ⟨rfl, honce⟩
    exact ⟨rfl, rfl, honce, rfl, rfl⟩

/-- **The six declarations are read back exactly if the size leaves nothing open.** -/
theorem parse_forced_iff (hread : ∀ d ∈ sizes.forced solo, Readable d) :
    parse (serialize (sizes.forced solo)) = sizes.forced solo ↔ Sealed (sizes.chosen solo) := by
  have hne : sizes.forced solo ≠ [] := List.cons_ne_nil _ _
  have hn : ((sizes.forced solo).map (·.1)).Nodup := nodup_forcedNames
  rw [← whole_forced_iff]
  refine ⟨fun h => ?_, parse_serialize hne hn hread⟩
  have hput : Pairs.putAll [] (taken (following (sizes.forced solo))) = sizes.forced solo := by
    rw [taken_following hne]
    exact h
  exact whole_of_taken hread (taken_eq hn hput)

theorem isSize_chosen (page : Node) (soloOverride inlineOverride : String) (solo : Bool) :
    IsSize ((Sizes.ofPage page soloOverride inlineOverride).chosen solo) := by
  obtain ⟨hsolo, hinline⟩ := isSize_ofPage page soloOverride inlineOverride
  rw [Sizes.chosen]
  split
  · exact hsolo
  · exact hinline

theorem parse_style_iff (page : Node) (soloOverride inlineOverride : String) (solo : Bool)
    {e : Element} (he : e.attr? "style" = none) :
    let sizes := Sizes.ofPage page soloOverride inlineOverride
    parse (styleText (sizes.style solo e)) = sizes.forced solo ↔ Sealed (sizes.chosen solo) := by
  intro sizes
  obtain ⟨hsolo, hinline⟩ := isSize_ofPage page soloOverride inlineOverride
  have hempty : parse (styleText e) = [] := by
    rw [styleText, he]
    decide
  have hforced : Pairs.putAll [] (sizes.forced solo) = sizes.forced solo :=
    Pairs.putAll_of_nodup nodup_forcedNames
  rw [styleText_style, Sizes.restyle, hempty, hforced]
  exact parse_forced_iff (readable_forced hsolo hinline solo)

/-- **A size fits into the style of an image exactly if it leaves nothing open and does not bring
the word along** that is written behind it. -/
theorem style_holds_iff (page : Node) (soloOverride inlineOverride : String) (solo : Bool)
    {e : Element} (he : e.attr? "style" = none) :
    let sizes := Sizes.ofPage page soloOverride inlineOverride
    let ds := parse (styleText (sizes.style solo e))
    (ds = sizes.forced solo ↔ Sealed (sizes.chosen solo)) ∧
      (HoldsTo sizes solo ds ↔
        Sealed (sizes.chosen solo) ∧ ¬important <:+ (sizes.chosen solo).toList) := by
  intro sizes ds
  have hparse := parse_style_iff page soloOverride inlineOverride solo he
  have hsize : IsSize (sizes.chosen solo) := isSize_chosen page soloOverride inlineOverride solo
  rw [holdsTo_iff hsize.trimmed]
  exact ⟨hparse, and_congr_left' hparse⟩

/-- A style sheet with a size that has a semicolon in quotes, and a backslash at its end. -/
def quotedSize : String := ":root\x7b--sticker-solo-max-width:calc(1px + ';')\\\x7d"

theorem style_holds_iff_quotedSize :
    let sizes := Sizes.ofPage (pageOf quotedSize) "" "2em"
    (Element.mk "img" []).attr? "style" = none ∧
      sizes.chosen true = "calc(1px + ';')\\" ∧
      HoldsTo sizes true (parse (styleText (sizes.style true ⟨"img", []⟩))) := by
  intro sizes
  have hnone : (Element.mk "img" []).attr? "style" = none := rfl
  have hsize : sizes.chosen true = "calc(1px + ';')\\" := by decide +kernel
  have hholds := (style_holds_iff (pageOf quotedSize) "" "2em" true hnone).2
  refine ⟨hnone, hsize, hholds.mpr ?_⟩
  rw [hsize]
  decide

/-- A size with an open parenthesis swallows the declarations behind it, and one that brings the
word along has it twice. -/
theorem not_style_holds :
    (¬∀ (page : Node) (soloOverride inlineOverride : String) (solo : Bool) (e : Element),
      e.attr? "style" = none →
      let sizes := Sizes.ofPage page soloOverride inlineOverride
      parse (styleText (sizes.style solo e)) = sizes.forced solo) ∧
    ¬∀ (page : Node) (soloOverride inlineOverride : String) (solo : Bool) (e : Element),
      e.attr? "style" = none →
      let sizes := Sizes.ofPage page soloOverride inlineOverride
      ∀ d ∈ parse (styleText (sizes.style solo e)), EndsOnce important d.2.toList := by
  have hnone : (Element.mk "img" []).attr? "style" = none := rfl
  refine ⟨fun h => ?_, fun h => ?_⟩
  · have hsize : (Sizes.ofPage (pageOf "") "calc(1px" "").chosen true = "calc(1px" := by
      decide +kernel
    have hread := (parse_style_iff (pageOf "") "calc(1px" "" true hnone).mp (h _ _ _ _ _ hnone)
    rw [hsize] at hread
    exact absurd hread (by decide)
  · have hsize : (Sizes.ofPage (pageOf "") "128px !important" "").chosen true =
        "128px !important" := by decide +kernel
    have hread := parse_style_iff (pageOf "") "128px !important" "" true hnone
    have honce := h (pageOf "") "128px !important" "" true _ hnone
    have hends := isSize_chosen (pageOf "") "128px !important" "" true
    dsimp only at hread honce
    rw [hsize] at hread hends
    rw [hread.mpr (by decide)] at honce
    have hword := (endsOnce_forced_iff (hsize ▸ hends.trimmed)).mp honce
    rw [hsize] at hword
    exact absurd hword (by decide)

end StickerPages.Style
