import Mathlib.Data.List.TakeDrop
import StickerPages.Content.Picture
import StickerPages.Layout.Sweep
import StickerPages.Live.Document
import StickerPages.Proofs.Segments

/-!
# A picture is read back

The two ends of a sticker's way into a page are written apart: `escape` knows the five characters
that markup gives a meaning, and the reader knows every reference there is. A quoted value that was
escaped is read as what it was (`Escaping.decode`), because each escaped character is a reference of
its own with its semicolon, and what comes out of a reference is not looked at again. So it is with
any other way of escaping, say one that leaves an apostrophe as it is.

An escaped value has no quote mark in it, so the reader finds the end of the value where it was
written; then it finds the next attribute, and at last the end of the tag (`startTag?_tagBy`). The
rest is counting: one tag, and it is an image, so one node (`ofMarkup_picture`).
-/

namespace StickerPages.Markup

open Content

/-! ## Escaped values -/

/-- A way to write a value between quote marks: each character as it is, or as a reference to it. -/
def Escaping (f : Char → List Char) : Prop :=
  ∀ c, (f c = [c] ∧ c ≠ '&' ∧ c ≠ '"') ∨
    ∃ ref, f c = '&' :: ref ∧ ('"' ∉ ref ∧ '\'' ∉ ref) ∧
      ∀ rest, attributeReference? (ref ++ rest) = some ([c], rest)

theorem escapeChar_cases : Escaping escapeChar := by
  intro c
  unfold escapeChar
  split
  · exact .inr ⟨"amp;".toList, rfl, by decide, fun rest => rfl⟩
  · exact .inr ⟨"lt;".toList, rfl, by decide, fun rest => rfl⟩
  · exact .inr ⟨"gt;".toList, rfl, by decide, fun rest => rfl⟩
  · exact .inr ⟨"quot;".toList, rfl, by decide, fun rest => rfl⟩
  · exact .inr ⟨"#x27;".toList, rfl, by decide, fun rest => rfl⟩
  · exact .inl ⟨rfl, by assumption, by assumption⟩

theorem length_le_flatMap {α β : Type} {f : α → List β} (h : ∀ a, f a ≠ []) (l : List α) :
    l.length ≤ (l.flatMap f).length := by
  induction l with
  | nil => exact Nat.le_refl 0
  | cons a r ih =>
      have hone := List.length_pos_iff.mpr (h a)
      rw [List.flatMap_cons, List.length_append, List.length_cons]
      omega

variable {f : Char → List Char}

section

variable (hf : Escaping f)

include hf

theorem Escaping.ne_nil (c : Char) : f c ≠ [] := by
  rcases hf c with ⟨heq, _⟩ | ⟨ref, heq, _⟩ <;> simp [heq]

theorem Escaping.quote_not_mem (cs : List Char) : '"' ∉ cs.flatMap f := by
  intro h
  obtain ⟨c, _, hc⟩ := List.mem_flatMap.mp h
  rcases hf c with ⟨heq, _, hquote⟩ | ⟨ref, heq, href, _⟩
  · rw [heq, List.mem_singleton] at hc
    exact hquote hc.symm
  · rw [heq] at hc
    simp [href] at hc

/-- Every step of the reading takes one character of the value. -/
theorem Escaping.decodeFrom (cs : List Char) :
    ∀ n, cs.length ≤ n → Markup.decodeFrom n (cs.flatMap f) = cs := by
  induction cs with
  | nil =>
      intro n _
      cases n <;> rfl
  | cons c r ih =>
      intro n hn
      cases n with
      | zero => simp at hn
      | succ n =>
          have hrest : Markup.decodeFrom n (r.flatMap f) = r := ih n (by simpa using hn)
          rw [List.flatMap_cons]
          rcases hf c with ⟨heq, hamp, _⟩ | ⟨ref, heq, _, hread⟩
          · rw [heq, List.singleton_append, Markup.decodeFrom, hrest]
            simpa using hamp
          · rw [heq, List.cons_append, Markup.decodeFrom, hread]
            simp [hrest]

/-- **An escaped value is read as what it was.** -/
theorem Escaping.decode (cs : List Char) : Markup.decode (cs.flatMap f) = cs := by
  -- the reader has a step for each character that is written, and needs one for each that is meant
  rw [Markup.decode]
  exact hf.decodeFrom cs _ (length_le_flatMap hf.ne_nil cs)

end

/-! ## Attributes -/

theorem splitAtChar?_append {c : Char} {cs : List Char} (h : c ∉ cs) (rest : List Char) :
    splitAtChar? c (cs ++ c :: rest) = some (cs, rest) := by
  induction cs with
  | nil => simp [splitAtChar?]
  | cons d r ih =>
      rw [List.mem_cons, not_or] at h
      simp [splitAtChar?, Ne.symm h.1, ih h.2]

/-- An attribute as it is written, its value between quote marks. -/
def writtenAttr (a : String × String) : List Char :=
  a.1.toList ++ '=' :: '"' :: ((escape a.2).toList ++ ['"'])

/-- An attribute as it is written with another way of escaping. -/
def attrBy (f : Char → List Char) (a : String × String) : List Char :=
  a.1.toList ++ '=' :: '"' :: (a.2.toList.flatMap f ++ ['"'])

/-- A name that is read as it is written. -/
structure Plain (ends : Char → Bool) (name : String) : Prop where
  ne_nil : name.toList ≠ []
  stays : name.toList.any ends = false
  small : Text.small name.toList = name.toList

theorem Plain.not_ends {ends : Char → Bool} {name : String} (h : Plain ends name) {c : Char}
    (hc : c ∈ name.toList) : ends c = false :=
  Bool.eq_false_iff.mpr (List.any_eq_false.mp h.stays c hc)

/-- The value between quote marks ends at the first quote mark. -/
theorem attrValue?_quoted {value : List Char} (h : '"' ∉ value) (rest : List Char) :
    attrValue? ('=' :: '"' :: (value ++ '"' :: rest)) = some (value, rest) := by
  have hequals : Text.trimLeft ('=' :: '"' :: (value ++ '"' :: rest)) =
      '=' :: '"' :: (value ++ '"' :: rest) := Text.trimLeft_cons_solid (by decide) _
  have hquote : Text.trimLeft ('"' :: (value ++ '"' :: rest)) = '"' :: (value ++ '"' :: rest) :=
    Text.trimLeft_cons_solid (by decide) _
  simp [attrValue?, hequals, hquote, attrValueFrom?, splitAtChar?_append h]

/-- The character in front of what is still to be read. -/
theorem headD_drop_read {front : List Char} (h : front ≠ []) (next : List Char) (d : Char) :
    ((front ++ next).drop ((front ++ next).length - next.length - 1)).headD d =
      front.getLast h := by
  have hlength : (front ++ next).length - next.length - 1 = front.length - 1 := by
    rw [List.length_append]
    omega
  rw [hlength, List.drop_append_of_le_length (Nat.sub_le _ _), List.drop_length_sub_one h]
  rfl

/-- One attribute is read, and the reading goes on behind the gap. -/
theorem attrsFrom_quoted (hf : Escaping f) {a : String × String} (ha : Plain endsAttrName a.1)
    (fuel : Nat) {gap next : List Char} (hnext : skipBetween (gap ++ next) = next) :
    attrsFrom (fuel + 1) ' ' (attrBy f a ++ (gap ++ next)) =
      let more := attrsFrom fuel (gap.getLastD '"') next
      (a :: more.1, more.2) := by
  obtain ⟨name, value⟩ := a
  obtain ⟨c, ns, hname⟩ := List.exists_cons_of_ne_nil ha.ne_nil
  have hends : endsAttrName c = false := ha.not_ends (hname ▸ List.mem_cons_self)
  have hcs : attrBy f (name, value) ++ (gap ++ next) =
      c :: (ns ++ '=' :: '"' :: (value.toList.flatMap f ++ '"' :: (gap ++ next))) := by
    simp [attrBy, hname]
  have hrun : ∀ d ∈ ns, (!endsAttrName d) = true := by
    intro d hd
    rw [ha.not_ends (hname ▸ List.mem_cons_of_mem c hd)]
    rfl
  have hstop : ∀ d ∈ ('=' :: '"' :: (value.toList.flatMap f ++ '"' :: (gap ++ next))).head?,
      (!endsAttrName d) = false := by
    simp [endsAttrName]
  have hvalue := attrValue?_quoted (hf.quote_not_mem value.toList) (gap ++ next)
  have hopens : (!opensAttr ' ' || decide (c = '>') || decide (c = '/') ||
      Text.isBlank c) = false := by
    simp only [endsAttrName, Bool.or_eq_false_iff, beq_eq_false_iff_ne] at hends
    simp [hends, show opensAttr ' ' = true by decide]
  -- what stands in front of the next attribute is the end of the gap, or the closing quote mark
  have hlast : ((attrBy f (name, value) ++ (gap ++ next)).drop
      ((attrBy f (name, value) ++ (gap ++ next)).length - next.length - 1)).headD c =
        gap.getLastD '"' := by
    have hfront : attrBy f (name, value) ++ (gap ++ next) =
        ((name.toList ++ '=' :: '"' :: value.toList.flatMap f) ++ '"' :: gap) ++ next := by
      simp [attrBy]
    rw [hfront, headD_drop_read (by simp), List.getLast_append_of_ne_nil _ (List.cons_ne_nil _ gap)]
    exact List.getLast_eq_getLastD (List.cons_ne_nil _ gap)
  rw [hcs] at hlast
  rw [hcs, attrsFrom]
  simp only [hopens, takeWhile_run hrun hstop, dropWhile_run hrun hstop, hvalue, hnext, hlast]
  rw [if_neg Bool.false_ne_true, ← hname, ha.small, hf.decode, String.ofList_toList,
    String.ofList_toList]

/-- Attributes as they are written in a tag. -/
def writtenAttrs (attrs : List (String × String)) : List Char :=
  attrs.flatMap fun a => ' ' :: writtenAttr a

/-- Attributes as they are written with another way of escaping. -/
def attrsBy (f : Char → List Char) (attrs : List (String × String)) : List Char :=
  attrs.flatMap fun a => ' ' :: attrBy f a

/-! Between attributes stands one blank, and before the end of the tag nothing. -/

theorem skipBetween_blank {c : Char} (h : Text.isBlank c = true) (r : List Char) :
    skipBetween (c :: r) = skipBetween r := by
  rw [skipBetween.eq_def]
  split
  · rename_i heq
    cases heq
  · rename_i heq
    cases heq
    exact absurd h (by decide)
  · rename_i heq
    cases heq
    rw [h, Bool.true_or, if_pos rfl]

theorem skipBetween_solid {c : Char} (h : Text.isBlank c = false) (hslash : c ≠ '/')
    (r : List Char) : skipBetween (c :: r) = c :: r := by
  rw [skipBetween.eq_def]
  split
  · rename_i heq
    cases heq
  · rename_i heq
    cases heq
    rfl
  · rename_i heq
    cases heq
    simp [h, hslash]

theorem skipBetween_attr {a : String × String} (ha : Plain endsAttrName a.1) (rest : List Char) :
    skipBetween (' ' :: (attrBy f a ++ rest)) = attrBy f a ++ rest := by
  obtain ⟨c, ns, hname⟩ := List.exists_cons_of_ne_nil ha.ne_nil
  have hends : endsAttrName c = false := ha.not_ends (hname ▸ List.mem_cons_self)
  simp only [endsAttrName, Bool.or_eq_false_iff, beq_eq_false_iff_ne] at hends
  obtain ⟨⟨⟨hslash, _⟩, _⟩, hblank⟩ := hends
  rw [skipBetween_blank (by decide), attrBy, hname, List.cons_append, List.cons_append,
    skipBetween_solid hblank hslash]

/-- **The attributes of a tag are read up to its end.** -/
theorem attrsFrom_written (hf : Escaping f) (attrs : List (String × String)) :
    ∀ (a : String × String) (fuel : Nat) (rest : List Char), attrs.length < fuel →
      (∀ b ∈ a :: attrs, Plain endsAttrName b.1) →
      attrsFrom fuel ' ' (attrBy f a ++ (attrsBy f attrs ++ '>' :: rest)) =
        (a :: attrs, '"', '>' :: rest) := by
  induction attrs with
  | nil =>
      intro a fuel rest hfuel hplain
      obtain ⟨fuel, rfl⟩ := Nat.exists_eq_succ_of_ne_zero (Nat.ne_of_gt hfuel)
      have hend : skipBetween ([] ++ '>' :: rest) = '>' :: rest :=
        skipBetween_solid (by decide) (by decide) rest
      have hstop : attrsFrom fuel '"' ('>' :: rest) = ([], '"', '>' :: rest) := by
        cases fuel <;> simp [attrsFrom]
      have hread := attrsFrom_quoted hf (hplain a List.mem_cons_self) fuel hend
      rw [List.getLastD_nil, hstop] at hread
      exact hread
  | cons b r ih =>
      intro a fuel rest hfuel hplain
      obtain ⟨fuel, rfl⟩ := Nat.exists_eq_succ_of_ne_zero (Nat.ne_of_gt (Nat.zero_lt_of_lt hfuel))
      rw [List.length_cons] at hfuel
      have hplain' : ∀ c ∈ b :: r, Plain endsAttrName c.1 := fun c hc =>
        hplain c (List.mem_cons_of_mem a hc)
      have hgap : skipBetween ([' '] ++ (attrBy f b ++ (attrsBy f r ++ '>' :: rest))) =
          attrBy f b ++ (attrsBy f r ++ '>' :: rest) :=
        skipBetween_attr (hplain' b List.mem_cons_self) _
      have hmore : attrsFrom fuel ' ' (attrBy f b ++ (attrsBy f r ++ '>' :: rest)) =
          (b :: r, '"', '>' :: rest) := ih b fuel rest (Nat.lt_of_succ_lt_succ hfuel) hplain'
      have hread := attrsFrom_quoted hf (hplain a List.mem_cons_self) fuel hgap
      rw [List.getLastD_cons, List.getLastD_nil, hmore] at hread
      rw [attrsBy, List.flatMap_cons]
      simpa [attrsBy] using hread

/-! ## The tag -/

/-- A tag as it is written. -/
def writtenTag (name : String) (attrs : List (String × String)) : List Char :=
  '<' :: (name.toList ++ (writtenAttrs attrs ++ ['>']))

/-- A tag as it is written with another way of escaping. -/
def tagBy (f : Char → List Char) (name : String) (attrs : List (String × String)) : List Char :=
  '<' :: (name.toList ++ (attrsBy f attrs ++ ['>']))

theorem writtenAttrs_eq (attrs : List (String × String)) :
    writtenAttrs attrs = attrsBy escapeChar attrs := by
  have hone (a : String × String) : writtenAttr a = attrBy escapeChar a := by
    rw [writtenAttr, attrBy, escape, String.toList_ofList]
  rw [writtenAttrs, attrsBy]
  simp only [hone]

/-- **A tag ends where it was written to end**, whatever its values are. -/
theorem startTag?_tagBy (hf : Escaping f) {name : String} (hname : Plain endsTagName name)
    {a : String × String} {attrs : List (String × String)} (hplain : ∀ b ∈ a :: attrs, Plain endsAttrName b.1)
    (rest : List Char) :
    startTag? (name.toList ++ (attrsBy f (a :: attrs) ++ '>' :: rest)) =
      some (.go [.start name (a :: attrs) false]
        (if rawNames.contains name then some name else none) rest) := by
  have hattrs : attrsBy f (a :: attrs) ++ '>' :: rest =
      ' ' :: (attrBy f a ++ (attrsBy f attrs ++ '>' :: rest)) := by
    simp [attrsBy]
  have hrun : ∀ c ∈ name.toList, (!endsTagName c) = true := by
    intro c hc
    rw [hname.not_ends hc]
    rfl
  have hstop : ∀ c ∈ (attrsBy f (a :: attrs) ++ '>' :: rest).head?,
      (!endsTagName c) = false := by
    rw [hattrs]
    simp [endsTagName]
  have hnext : skipBetween (attrsBy f (a :: attrs) ++ '>' :: rest) =
      attrBy f a ++ (attrsBy f attrs ++ '>' :: rest) := by
    rw [hattrs, skipBetween_attr (hplain a List.mem_cons_self)]
  have hlast : ((name.toList ++ (attrsBy f (a :: attrs) ++ '>' :: rest)).drop
      ((name.toList ++ (attrsBy f (a :: attrs) ++ '>' :: rest)).length -
        (attrBy f a ++ (attrsBy f attrs ++ '>' :: rest)).length - 1)).headD '<' = ' ' := by
    have hfront : name.toList ++ (attrsBy f (a :: attrs) ++ '>' :: rest) =
        (name.toList ++ [' ']) ++ (attrBy f a ++ (attrsBy f attrs ++ '>' :: rest)) := by
      rw [hattrs, List.append_assoc, List.singleton_append]
    rw [hfront, headD_drop_read (by simp),
      List.getLast_append_of_ne_nil _ (List.cons_ne_nil ' ' [])]
    rfl
  have hfuel : attrs.length <
      (name.toList ++ (attrsBy f (a :: attrs) ++ '>' :: rest)).length := by
    have hle : (a :: attrs).length ≤ (attrsBy f (a :: attrs)).length :=
      length_le_flatMap (fun _ => List.cons_ne_nil _ _) _
    simp only [List.length_append, List.length_cons] at hle ⊢
    omega
  have hread := attrsFrom_written hf attrs a _ rest hfuel hplain
  have hend : Text.trimLeft ('>' :: rest) = '>' :: rest := Text.trimLeft_cons_solid (by decide) rest
  simp only [startTag?, takeWhile_run hrun hstop, dropWhile_run hrun hstop, hnext, hlast, hread,
    hname.small, hend, String.ofList_toList]

theorem startTag?_written {name : String} (hname : Plain endsTagName name) {a : String × String}
    {attrs : List (String × String)} (hplain : ∀ b ∈ a :: attrs, Plain endsAttrName b.1)
    (rest : List Char) :
    startTag? (name.toList ++ (writtenAttrs (a :: attrs) ++ '>' :: rest)) =
      some (.go [.start name (a :: attrs) false]
        (if rawNames.contains name then some name else none) rest) := by
  rw [writtenAttrs_eq]
  exact startTag?_tagBy escapeChar_cases hname hplain rest

/-- A page that is one tag is read as one tag. -/
theorem pieces_tagBy (hf : Escaping f) {name : String} (hname : Plain endsTagName name)
    (hletter : name.toList.head?.all Char.isAlpha = true) (hraw : rawNames.contains name = false)
    {a : String × String} {attrs : List (String × String)}
    (hplain : ∀ b ∈ a :: attrs, Plain endsAttrName b.1) :
    pieces (tagBy f name (a :: attrs)) = [.start name (a :: attrs) false] := by
  obtain ⟨c, ns, hcons⟩ := List.exists_cons_of_ne_nil hname.ne_nil
  have hc : c.isAlpha = true := by rwa [hcons] at hletter
  have hmarkup : markup? (name.toList ++ (attrsBy f (a :: attrs) ++ ['>'])) =
      some (.go [.start name (a :: attrs) false] none []) := by
    have htag := startTag?_tagBy hf hname hplain []
    rw [hraw, if_neg Bool.false_ne_true] at htag
    rw [← htag, hcons, List.cons_append, markup?]
    all_goals
      intro _ heq
      cases heq
      exact absurd hc (by decide)
  have hnext : next .feeding none (tagBy f name (a :: attrs)) =
      .go [.start name (a :: attrs) false] none [] := by
    have hopens : opensMarkup (name.toList ++ (attrsBy f (a :: attrs) ++ ['>'])) = true := by
      rw [hcons, List.cons_append, opensMarkup, hc]
      rfl
    simp [next, tagBy, hopens, hmarkup]
  have hdone (fuel : Nat) : piecesFrom fuel .feeding none [] = [] := by
    cases fuel <;> rfl
  have hsome : (tagBy f name (a :: attrs)).isEmpty = false := rfl
  rw [pieces, piecesFrom, hsome, if_neg Bool.false_ne_true, hnext]
  simp only [hdone, List.append_nil]

end StickerPages.Markup

namespace StickerPages.Content

open Markup Layout Live

/-- What a picture says of itself. -/
def pictureAttrs (url alt style : String) : List (String × String) :=
  [("src", url), ("srcset", url), ("sizes", ""), ("alt", alt), ("title", alt),
    ("class", "sticker-emoji no-lightbox"), ("style", baseStyle ++ style),
    ("referrerpolicy", "no-referrer")]

theorem toList_picture (url alt style : String) :
    (picture url alt style).toList = writtenTag "img" (pictureAttrs url alt style) := by
  have hsrc : "<img src=\"".toList =
      '<' :: ("img".toList ++ ' ' :: ("src".toList ++ ['=', '"'])) := by
    decide +kernel
  have hsrcset : "\" srcset=\"".toList = '"' :: ' ' :: ("srcset".toList ++ ['=', '"']) := by
    decide +kernel
  have halt : "\" sizes=\"\" alt=\"".toList = '"' :: ' ' :: ("sizes".toList ++ '=' :: '"' ::
      ((escape "").toList ++ '"' :: ' ' :: ("alt".toList ++ ['=', '"']))) := by
    decide +kernel
  have htitle : "\" title=\"".toList = '"' :: ' ' :: ("title".toList ++ ['=', '"']) := by
    decide +kernel
  have hstyle : "\" class=\"sticker-emoji no-lightbox\" style=\"".toList =
      '"' :: ' ' :: ("class".toList ++ '=' :: '"' ::
        ((escape "sticker-emoji no-lightbox").toList ++ '"' :: ' ' ::
          ("style".toList ++ ['=', '"']))) := by
    decide +kernel
  have hend : "\" referrerpolicy=\"no-referrer\">".toList =
      '"' :: ' ' :: ("referrerpolicy".toList ++ '=' :: '"' ::
        ((escape "no-referrer").toList ++ ['"', '>'])) := by
    decide +kernel
  unfold picture
  simp only [writtenTag, pictureAttrs, writtenAttrs, writtenAttr, List.flatMap_cons,
    List.flatMap_nil, String.toList_append, hsrc, hsrcset, halt, htitle, hstyle, hend,
    List.append_assoc, List.cons_append, List.nil_append]

/-- The element that a picture is. -/
def pictureElement (url alt style : String) : Element :=
  ⟨"img", [("src", .text url), ("srcset", .text url), ("sizes", .text ""), ("alt", .text alt),
    ("title", .text alt), ("class", .words ["sticker-emoji", "no-lightbox"]),
    ("style", .text (baseStyle ++ style)), ("referrerpolicy", .text "no-referrer")]⟩

/-- Only the class is read as words. -/
theorem ofTag_pictureAttrs (url alt style : String) :
    Element.ofTag "img" (pictureAttrs url alt style) = pictureElement url alt style := by
  have hclass : "sticker-emoji no-lightbox".blankSeparated = ["sticker-emoji", "no-lightbox"] := by
    decide +kernel
  simp [Element.ofTag, noteEncoding, pictureAttrs, pictureElement, Pairs.put, readValue, wordAttrs,
    wordAttrsOf, hclass]

theorem plain_pictureAttrs (url alt style : String) :
    ∀ a ∈ pictureAttrs url alt style, Plain endsAttrName a.1 := by
  have hnames : ∀ name ∈ ["src", "srcset", "sizes", "alt", "title", "class", "style",
      "referrerpolicy"], name.toList ≠ [] ∧ name.toList.any endsAttrName = false ∧
        Text.small name.toList = name.toList := by
    decide +kernel
  intro a ha
  obtain ⟨hne, hstays, hsmall⟩ := hnames a.1 (by
    simpa [pictureAttrs] using List.mem_map_of_mem (f := Prod.fst) ha)
  exact ⟨hne, hstays, hsmall⟩

/-- A picture is one tag. -/
theorem pieces_picture (url alt style : String) :
    Markup.pieces (picture url alt style).toList =
      [.start "img" (pictureAttrs url alt style) false] := by
  have hname : Plain endsTagName "img" := ⟨by decide, by decide, by decide +kernel⟩
  rw [toList_picture, writtenTag, writtenAttrs_eq]
  exact pieces_tagBy escapeChar_cases hname (by decide) (by decide)
    (plain_pictureAttrs url alt style)

/-- **A picture is read back.** Whatever is in its address, in the text that stands in for it and in
its style, a page that is a picture has one node, a sticker that says just that of itself. -/
theorem ofMarkup_picture {ℓ ω : Type} (url alt style : String) (ready : Bool) :
    let e := pictureElement url alt style
    (Document.ofMarkup (picture url alt style) ready : Document ℓ ω).forest =
        ⟨.element 0 ⟨rootName, []⟩ [.element 1 e []], [], 2⟩ ∧
      isSticker ({} : Rules).stickerClass (.element 1 e []) = true ∧
      e.attr? "src" = some (.text url) ∧ e.attr? "srcset" = some (.text url) ∧
      e.attr? "alt" = some (.text alt) ∧ e.attr? "title" = some (.text alt) ∧
      e.attr? "style" = some (.text (baseStyle ++ style)) := by
  have hvoid : voidNames.contains "img" = true := by decide
  have hread : Markup.read 0 (picture url alt style) =
      (.element 0 ⟨rootName, []⟩ [.element 1 (pictureElement url alt style) []], 2) := by
    rw [Markup.read, pieces_picture, List.foldl_cons, List.foldl_nil, Build.take,
      ofTag_pictureAttrs, hvoid]
    rfl
  refine ⟨?_, rfl, rfl, rfl, rfl, rfl, rfl⟩
  rw [Document.ofMarkup, Forest.ofMarkup, hread]

end StickerPages.Content
