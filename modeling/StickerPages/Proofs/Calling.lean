import StickerPages.Proofs.Catalogs
import StickerPages.Proofs.Pictures
import StickerPages.Proofs.Shapes
import StickerPages.Proofs.Writes

/-!
# Codes that a catalog gives, and codes that a page knows

A catalog makes a sticker's code of the group's tag and the sticker's name, and takes both as they
are written, but for blanks in the tag. A page knows a code by its alphabet. A name with a point in
it, say, has a code that no page can call for.

So whether a page that is one code becomes that code's picture is a matter of the code's characters.
One direction is a reading of the code. The other has to deal with what may come instead: a foreign
name can hold another code, which becomes a picture of its own. But the text in that picture is a
name, and a foreign name is none.

The second reading of a page goes over the address in the picture as well. It commutes with the
escaping of attributes, because what an escaped code is made of is never escaped
(`unescape_escape`).
-/

namespace StickerPages.Content

open Markup

variable {cs rest name : List Char} {c : Char}

/-! ## What an escaped code is made of -/

/-- The character can stand in an escaped code. -/
def isCodeChar (c : Char) : Bool := isNameChar c || c == ':' || c == '\\'

/-- The ways to escape a code. -/
def escapedForms (name : List Char) : List (List Char) :=
  ['\\' :: ':' :: (name ++ ['\\', ':']), '\\' :: ':' :: (name ++ [':']),
    ':' :: (name ++ ['\\', ':'])]

theorem isCodeChar_of_mem_escapedForms {front : List Char} (hname : IsName name)
    (h : front ∈ escapedForms name) : ∀ c ∈ front, isCodeChar c = true := by
  have hchars : ∀ c ∈ name, isCodeChar c = true := fun c hc => by simp [isCodeChar, hname.2 c hc]
  have hcolon : isCodeChar ':' = true := rfl
  have hslash : isCodeChar '\\' = true := rfl
  simp only [escapedForms, List.mem_cons, List.not_mem_nil, or_false] at h
  rcases h with rfl | rfl | rfl <;>
    simpa [hcolon, hslash, or_imp, forall_and] using hchars

theorem isName_takeWhile (h : ¬(cs.takeWhile isNameChar).isEmpty = true) :
    IsName (cs.takeWhile isNameChar) :=
  ⟨by simpa using h, fun _ hc => List.mem_takeWhile_imp hc⟩

theorem IsName.not_mem_slash (h : IsName cs) : '\\' ∉ cs :=
  fun hslash => absurd (h.2 _ hslash) (by decide)

theorem exists_of_escapedCode? (h : escapedCode? cs = some (name, rest)) :
    IsName name ∧ ∃ front ∈ escapedForms name, cs = front ++ rest := by
  have hrun (r : List Char) := List.takeWhile_append_dropWhile (p := isNameChar) (l := r)
  unfold escapedCode? at h
  split at h
  · next r =>
    dsimp only at h
    split at h
    · cases h
    · next hne =>
      have hname := isName_takeWhile hne
      have hr := hrun r
      split at h
      · next hdrop =>
        cases h
        refine ⟨hname, _, List.mem_cons_self, ?_⟩
        rw [hdrop] at hr
        simp [hr]
      · next hdrop =>
        cases h
        refine ⟨hname, _, List.mem_cons_of_mem _ List.mem_cons_self, ?_⟩
        rw [hdrop] at hr
        simp [hr]
      · cases h
  · next r =>
    dsimp only at h
    split at h
    · cases h
    · next hne =>
      have hr := hrun r
      split at h
      · next hdrop =>
        cases h
        refine ⟨isName_takeWhile hne, ':' :: (r.takeWhile isNameChar ++ ['\\', ':']),
          by simp [escapedForms], ?_⟩
        rw [hdrop] at hr
        simp [hr]
      · cases h
  · cases h

theorem escapedCode?_written {front : List Char} (hname : IsName name)
    (hfront : front ∈ escapedForms name) (rest : List Char) :
    escapedCode? (front ++ rest) = some (name, rest) := by
  have hempty : name.isEmpty = false := by simpa using hname.1
  have hslash : ∀ d ∈ ('\\' :: ':' :: rest).head?, isNameChar d = false := by simp; decide
  have hcolon : ∀ d ∈ (':' :: rest).head?, isNameChar d = false := by simp; decide
  simp only [escapedForms, List.mem_cons, List.not_mem_nil, or_false] at hfront
  rcases hfront with rfl | rfl | rfl
  · rw [show ('\\' :: ':' :: (name ++ ['\\', ':'])) ++ rest =
      '\\' :: ':' :: (name ++ '\\' :: ':' :: rest) by simp, escapedCode?,
      takeWhile_run hname.2 hslash, dropWhile_run hname.2 hslash, hempty]
    rfl
  · rw [show ('\\' :: ':' :: (name ++ [':'])) ++ rest =
      '\\' :: ':' :: (name ++ ':' :: rest) by simp, escapedCode?,
      takeWhile_run hname.2 hcolon, dropWhile_run hname.2 hcolon, hempty]
    rfl
  · rw [show (':' :: (name ++ ['\\', ':'])) ++ rest =
      ':' :: (name ++ '\\' :: ':' :: rest) by simp, escapedCode?,
      takeWhile_run hname.2 hslash, dropWhile_run hname.2 hslash, hempty]
    rfl

/-- An escaped code is read just where one is written. -/
theorem escapedCode?_eq_some_iff :
    escapedCode? cs = some (name, rest) ↔
      IsName name ∧ ∃ front ∈ escapedForms name, cs = front ++ rest := by
  constructor
  · exact exists_of_escapedCode?
  · rintro ⟨hname, front, hfront, rfl⟩
    exact escapedCode?_written hname hfront rest

/-! ## The second reading, cut in pieces -/

theorem unescape_of_none (h : escapedCode? (c :: cs) = none) :
    unescape (c :: cs) = c :: unescape cs := by
  rw [unescape]
  split
  · next hsome =>
    rw [h] at hsome
    cases hsome
  · rfl

theorem unescape_of_some (h : escapedCode? cs = some (name, rest)) :
    unescape cs = ':' :: (name ++ ':' :: unescape rest) := by
  cases cs with
  | nil => cases h
  | cons c r =>
      rw [unescape]
      split
      · next hsome =>
        rw [h] at hsome
        cases hsome
        rfl
      · next hnone =>
        rw [h] at hnone
        cases hnone

/-- An escaped code ends in front of a character that cannot stand in it. -/
theorem escapedCode?_append_barrier (hc : isCodeChar c = false) (cs rest : List Char) :
    escapedCode? (cs ++ c :: rest) =
      (escapedCode? cs).map fun r => (r.1, r.2 ++ c :: rest) := by
  cases hread : escapedCode? cs with
  | some r =>
      obtain ⟨name, back⟩ := r
      obtain ⟨hname, front, hfront, rfl⟩ := escapedCode?_eq_some_iff.mp hread
      exact escapedCode?_eq_some_iff.mpr ⟨hname, front, hfront, List.append_assoc ..⟩
  | none =>
      refine Option.eq_none_iff_forall_ne_some.mpr fun ⟨name, back⟩ h => ?_
      obtain ⟨hname, front, hfront, heq⟩ := escapedCode?_eq_some_iff.mp h
      have hcut : ∀ t, cs ≠ front ++ t := by
        rintro t rfl
        rw [escapedCode?_eq_some_iff.mpr ⟨hname, front, hfront, rfl⟩] at hread
        cases hread
      rcases List.append_eq_append_iff.mp heq with ⟨t, rfl, hback⟩ | ⟨t, hcs, -⟩
      · cases t with
        | nil => exact hcut [] (by simp)
        | cons d t =>
            -- the code would have to go over the character
            obtain rfl : c = d := (List.cons.inj hback).1
            rw [isCodeChar_of_mem_escapedForms hname hfront c (by simp)] at hc
            cases hc
      · exact hcut t hcs

/-- The second reading is cut at a character that no escaped code can have. -/
theorem unescape_append_barrier (hc : isCodeChar c = false) (cs rest : List Char) :
    unescape (cs ++ c :: rest) = unescape cs ++ c :: unescape rest := by
  induction hn : cs.length using Nat.strongRecOn generalizing cs with
  | _ n ih =>
      have hcode := escapedCode?_append_barrier hc cs rest
      cases hread : escapedCode? cs with
      | some r =>
          obtain ⟨name, back⟩ := r
          rw [hread] at hcode
          rw [unescape_of_some hread, unescape_of_some hcode,
            ih back.length (hn ▸ escapedCode?_lt hread) back rfl]
          simp
      | none =>
          rw [hread] at hcode
          cases cs with
          | nil => rw [List.nil_append, unescape_of_none hcode, unescape, List.nil_append]
          | cons d r =>
              rw [List.cons_append] at hcode ⊢
              rw [unescape_of_none hcode, unescape_of_none hread,
                ih r.length (by simp at hn; omega) r rfl, List.cons_append]

/-! ## The second reading over escaped attributes -/

theorem unescape_of_not_mem (h : '\\' ∉ cs) : unescape cs = cs := by
  have hslash : ∀ c ∈ cs, c ≠ '\\' := fun c hc hslash => h (hslash ▸ hc)
  have hcolon : ∀ l r, cs = l ++ ':' :: r →
      ((r ++ []).dropWhile isNameChar).head? ≠ some '\\' := by
    rintro l r rfl hhead
    rw [List.append_nil] at hhead
    refine h (List.mem_append_right _ (List.mem_cons_of_mem _ ?_))
    exact (List.dropWhile_suffix isNameChar).subset (List.mem_of_mem_head? hhead)
  have hread := unescape_append hslash hcolon
  rwa [List.append_nil, unescape, List.append_nil] at hread

theorem escapeChar_code (hc : isCodeChar c = true) : escapeChar c = [c] := by
  unfold escapeChar
  split
  · cases hc
  · cases hc
  · cases hc
  · cases hc
  · cases hc
  · rfl

/-- Any other character than those of codes is written with one at its end that no code has. -/
theorem escapeChar_barrier (hc : isCodeChar c = false) :
    ∃ front last, escapeChar c = front ++ [last] ∧ isCodeChar last = false ∧ '\\' ∉ front := by
  unfold escapeChar
  split
  · exact ⟨"&amp".toList, ';', rfl, rfl, by decide⟩
  · exact ⟨"&lt".toList, ';', rfl, rfl, by decide⟩
  · exact ⟨"&gt".toList, ';', rfl, rfl, by decide⟩
  · exact ⟨"&quot".toList, ';', rfl, rfl, by decide⟩
  · exact ⟨"&#x27".toList, ';', rfl, rfl, by decide⟩
  · exact ⟨[], c, rfl, hc, List.not_mem_nil⟩

theorem flatMap_escapeChar_code (h : ∀ c ∈ cs, isCodeChar c = true) :
    cs.flatMap escapeChar = cs := by
  induction cs with
  | nil => rfl
  | cons c r ih =>
      rw [List.forall_mem_cons] at h
      rw [List.flatMap_cons, escapeChar_code h.1, ih h.2, List.singleton_append]

/-- A code at the start of an escaped text is a code at the start of the text. -/
theorem exists_of_flatMap_escapeChar {front : List Char}
    (hfront : ∀ c ∈ front, isCodeChar c = true) :
    ∀ {cs}, cs.flatMap escapeChar = front ++ rest → ∃ back, cs = front ++ back := by
  induction front with
  | nil => exact fun {cs} _ => ⟨cs, rfl⟩
  | cons d front ih =>
      intro cs h
      rw [List.forall_mem_cons] at hfront
      cases cs with
      | nil => cases h
      | cons c r =>
          rw [List.flatMap_cons] at h
          rcases escapeChar_cases c with ⟨heq, -, -⟩ | ⟨ref, heq, -, -⟩
          · rw [heq, List.singleton_append] at h
            obtain ⟨rfl, hr⟩ := List.cons.inj h
            obtain ⟨back, rfl⟩ := ih hfront.2 hr
            exact ⟨back, rfl⟩
          · rw [heq] at h
            obtain rfl := (List.cons.inj h).1
            exact absurd hfront.1 (by decide)

theorem escapedCode?_escape (cs : List Char) :
    escapedCode? (cs.flatMap escapeChar) =
      (escapedCode? cs).map fun r => (r.1, r.2.flatMap escapeChar) := by
  cases hread : escapedCode? cs with
  | some r =>
      obtain ⟨name, back⟩ := r
      obtain ⟨hname, front, hfront, rfl⟩ := escapedCode?_eq_some_iff.mp hread
      refine escapedCode?_eq_some_iff.mpr ⟨hname, front, hfront, ?_⟩
      rw [List.flatMap_append,
        flatMap_escapeChar_code (isCodeChar_of_mem_escapedForms hname hfront)]
  | none =>
      refine Option.eq_none_iff_forall_ne_some.mpr fun ⟨name, back⟩ h => ?_
      obtain ⟨hname, front, hfront, heq⟩ := escapedCode?_eq_some_iff.mp h
      obtain ⟨back, rfl⟩ :=
        exists_of_flatMap_escapeChar (isCodeChar_of_mem_escapedForms hname hfront) heq
      rw [escapedCode?_eq_some_iff.mpr ⟨hname, front, hfront, rfl⟩] at hread
      cases hread

/-- **The second reading commutes with escaping**, for codes are not touched by it. -/
theorem unescape_escape (cs : List Char) :
    unescape (cs.flatMap escapeChar) = (unescape cs).flatMap escapeChar := by
  induction hn : cs.length using Nat.strongRecOn generalizing cs with
  | _ n ih =>
      have hcode := escapedCode?_escape cs
      cases hread : escapedCode? cs with
      | some r =>
          obtain ⟨name, back⟩ := r
          rw [hread] at hcode
          have hname : ∀ c ∈ name, isCodeChar c = true := fun c hc => by
            simp [isCodeChar, (escapedCode?_eq_some_iff.mp hread).1.2 c hc]
          have hcolon : escapeChar ':' = [':'] := rfl
          rw [unescape_of_some hcode, unescape_of_some hread,
            ih back.length (hn ▸ escapedCode?_lt hread) back rfl, List.flatMap_cons,
            List.flatMap_append, List.flatMap_cons, hcolon, flatMap_escapeChar_code hname]
          rfl
      | none =>
          rw [hread] at hcode
          cases cs with
          | nil => rw [List.flatMap_nil, unescape, List.flatMap_nil]
          | cons c r =>
              have hr := ih r.length (by simp at hn; omega) r rfl
              rw [unescape_of_none hread, List.flatMap_cons, List.flatMap_cons, ← hr]
              rw [List.flatMap_cons] at hcode
              cases hc : isCodeChar c with
              | true =>
                  rw [escapeChar_code hc] at hcode ⊢
                  exact unescape_of_none hcode
              | false =>
                  obtain ⟨front, last, heq, hlast, hfront⟩ := escapeChar_barrier hc
                  rw [heq, List.append_assoc, List.singleton_append,
                    unescape_append_barrier hlast, unescape_of_not_mem hfront, List.append_assoc,
                    List.singleton_append]

/-- The text without its escapes. -/
def unescaped (s : String) : String := String.ofList (unescape s.toList)

theorem unescape_barrier (hc : isCodeChar c = false) (rest : List Char) :
    unescape (c :: rest) = c :: unescape rest :=
  unescape_of_none (escapedCode?_append_barrier hc [] rest)

/-- The second reading takes each value of a tag by itself. -/
theorem unescape_writtenAttrs {attrs : List (String × String)}
    (hplain : ∀ a ∈ attrs, '\\' ∉ a.1.toList) (rest : List Char) :
    unescape (writtenAttrs attrs ++ '>' :: rest) =
      writtenAttrs (attrs.map fun a => (a.1, unescaped a.2)) ++ '>' :: unescape rest := by
  have hblank : isCodeChar ' ' = false := by decide
  have hequals : isCodeChar '=' = false := by decide
  have hquote : isCodeChar '"' = false := by decide
  induction attrs with
  | nil => exact unescape_barrier (by decide) rest
  | cons a r ih =>
      rw [List.forall_mem_cons] at hplain
      have hvalue : unescape (escape a.2).toList = (escape (unescaped a.2)).toList := by
        simp only [escape, unescaped, String.toList_ofList, unescape_escape]
      have hcut (r' : List (String × String)) (b : String × String) (t : List Char) :
          writtenAttrs (b :: r') ++ t =
            ' ' :: (b.1.toList ++
              '=' :: '"' :: ((escape b.2).toList ++ '"' :: (writtenAttrs r' ++ t))) := by
        simp [writtenAttrs, writtenAttr]
      rw [List.map_cons, hcut, hcut, unescape_barrier hblank, unescape_append_barrier hequals,
        unescape_of_not_mem hplain.1, unescape_barrier hquote, unescape_append_barrier hquote,
        hvalue, ih hplain.2]

theorem writtenTag_append (name : String) (attrs : List (String × String)) (rest : List Char) :
    writtenTag name attrs ++ rest =
      '<' :: (name.toList ++ (writtenAttrs attrs ++ '>' :: rest)) := by
  simp [writtenTag]

theorem unescaped_of_not_mem {s : String} (h : '\\' ∉ s.toList) : unescaped s = s := by
  rw [unescaped, unescape_of_not_mem h, String.ofList_toList]

/-- **The second reading of a picture is that of its address, of its text and of its style.** -/
theorem unescape_styledPicture (url alt style : String) (rest : List Char) :
    unescape ((picture url alt style).toList ++ rest) =
      (picture (unescaped url) (unescaped alt) (unescaped style)).toList ++ unescape rest := by
  have hplain : ∀ a ∈ pictureAttrs url alt style, '\\' ∉ a.1.toList := by
    simp [pictureAttrs]
  have hstyle : unescaped (baseStyle ++ style) = baseStyle ++ unescaped style := by
    -- the usual style ends with a semicolon
    have hbase : baseStyle.toList = baseStyle.toList.dropLast ++ [';'] := by decide +kernel
    have hslash : '\\' ∉ baseStyle.toList.dropLast := by decide +kernel
    have hread : unescape (baseStyle.toList ++ style.toList) =
        baseStyle.toList ++ unescape style.toList := by
      rw [hbase, List.append_assoc, List.append_assoc, List.singleton_append,
        unescape_append_barrier (by decide), unescape_of_not_mem hslash, List.singleton_append]
    rw [unescaped, String.toList_append, hread, String.ofList_append, String.ofList_toList,
      unescaped]
  have hattrs : (pictureAttrs url alt style).map (fun a => (a.1, unescaped a.2)) =
      pictureAttrs (unescaped url) (unescaped alt) (unescaped style) := by
    have hsizes : unescaped "" = "" := unescaped_of_not_mem (by decide)
    have hclass : unescaped "sticker-emoji no-lightbox" = "sticker-emoji no-lightbox" :=
      unescaped_of_not_mem (by decide)
    have hreferrer : unescaped "no-referrer" = "no-referrer" := unescaped_of_not_mem (by decide)
    simp only [pictureAttrs, List.map_cons, List.map_nil, hsizes, hclass, hstyle, hreferrer]
  have hname : ∀ t, unescape ("img".toList ++ t) = "img".toList ++ unescape t := fun t =>
    unescape_append (fun _ hc => ne_of_mem_of_not_mem hc (by decide)) fun l r h =>
      absurd (h ▸ List.mem_append_right l List.mem_cons_self : ':' ∈ "img".toList) (by decide)
  rw [toList_picture, toList_picture, writtenTag_append, writtenTag_append,
    unescape_barrier (by decide), hname, unescape_writtenAttrs hplain, hattrs]

theorem unescape_picture (url alt : String) (rest : List Char) :
    unescape ((picture url alt "").toList ++ rest) =
      (picture (unescaped url) (unescaped alt) "").toList ++ unescape rest := by
  have hread := unescape_styledPicture url alt "" rest
  rwa [unescaped_of_not_mem (s := "") (by decide)] at hread

/-- A picture stops the second reading, so what stands in front of it is read by itself. -/
theorem unescape_append_picture (cs : List Char) (url alt style : String) (rest : List Char) :
    unescape (cs ++ ((picture url alt style).toList ++ rest)) =
      unescape cs ++ ((picture (unescaped url) (unescaped alt) (unescaped style)).toList ++
        unescape rest) := by
  obtain ⟨t, ht⟩ := picture_head url alt style
  have hopening : isCodeChar '<' = false := by decide
  rw [← unescape_styledPicture, ht, List.cons_append, unescape_append_barrier hopening,
    unescape_barrier hopening]

/-- Two pictures at the start of one text are one picture. -/
theorem picture_append_inj {url url' alt alt' style style' : String} {rest rest' : List Char}
    (h : (picture url alt style).toList ++ rest = (picture url' alt' style').toList ++ rest') :
    url = url' ∧ alt = alt' ∧ style = style' ∧ rest = rest' := by
  have hname : Plain endsTagName "img" := ⟨by decide, by decide, by decide +kernel⟩
  have hread (url alt style : String) (rest : List Char) :
      startTag? (((picture url alt style).toList ++ rest).drop 1) =
        some (.go [.start "img" (pictureAttrs url alt style) false] none rest) := by
    rw [toList_picture, writtenTag_append]
    exact startTag?_written hname (plain_pictureAttrs url alt style) rest
  have hsame : startTag? (((picture url alt style).toList ++ rest).drop 1) =
      startTag? (((picture url' alt' style').toList ++ rest').drop 1) := by rw [h]
  rw [hread, hread] at hsame
  simp only [Option.some.injEq, Step.go.injEq, List.cons.injEq, Piece.start.injEq, and_true,
    true_and] at hsame
  obtain ⟨hattrs, rfl⟩ := hsame
  simp only [pictureAttrs, List.cons.injEq, Prod.mk.injEq] at hattrs
  obtain ⟨⟨-, hurl⟩, -, -, ⟨-, halt⟩, -, -, ⟨-, hstyle⟩, -⟩ := hattrs
  refine ⟨hurl, halt, ?_, rfl⟩
  rwa [← String.toList_inj, String.toList_append, String.toList_append, List.append_cancel_left_eq,
    String.toList_inj] at hstyle

end StickerPages.Content

namespace StickerPages.Catalog

/-! ## Codes that a catalog gives -/

/-- Every sticker of a group is that of an item or of an entry. -/
theorem GroupStickers.written {tag : String} {v : Value} {ss : List Sticker}
    (h : GroupStickers tag v ss) {s : Sticker} (hs : s ∈ ss) :
    (∃ type item, ItemSticker tag type item s) ∨ ∃ entry, EntrySticker tag entry s := by
  cases h with
  | typed _ _ hitems =>
      obtain ⟨item, hitem⟩ := exists_forall₂.mp ⟨_, hitems.flip⟩ s hs
      exact .inl ⟨_, item, hitem⟩
  | flat _ hentries => exact .inr (exists_forall₂.mp ⟨_, hentries.flip⟩ s hs)

/-- Every sticker that is a picture has the code of its group and its name. -/
theorem GroupStickers.shortcode {tag : String} {v : Value} {ss : List Sticker}
    (h : GroupStickers tag v ss) {s : Sticker} (hs : s ∈ ss) (himage : s.isImage = true) :
    s.shortcode = shortcodeOf tag s.name := by
  rcases h.written hs with ⟨type, item, hitem⟩ | ⟨entry, hentry⟩
  · cases hitem with
    | picture => rfl
    | text => cases himage
  · cases hentry with
    | picture => rfl
    | text => cases himage

/-- Every group of a catalog has the stickers of an entry. -/
theorem exists_groupStickers {v : Value} {gs : List Group} (h : ofValue v = .ok gs) {g : Group}
    (hg : g ∈ gs) : ∃ w, GroupStickers (tagOf g.name) w g.stickers := by
  cases ((catalogGroups_answers v).ok gs).mp h with
  | null => cases hg
  | map hgroups =>
      obtain ⟨⟨name, w⟩, hentry⟩ := exists_forall₂.mp ⟨_, hgroups.flip⟩ g hg
      obtain ⟨ss, hss, rfl⟩ := entryGroup_iff.mp hentry
      exact ⟨w, hss⟩

/-- What is in the table is the code of a sticker in a group. -/
theorem exists_of_mem_shortcodeMap {v : Value} {gs : List Group} (h : ofValue v = .ok gs)
    {code url : String} (hmem : (code, url) ∈ shortcodeMap gs) :
    ∃ g ∈ gs, ∃ s ∈ g.stickers, code = shortcodeOf (tagOf g.name) s.name ∧ url = s.original := by
  have hwritten : (code, url) ∈ (callable gs).map fun s => (s.shortcode, s.original) := by
    have hkeys : (([] : List (String × String)).map (·.1)).Nodup := List.nodup_nil
    rcases Pairs.mem_putAll _ hkeys hmem with hw | ⟨hnil, -⟩
    · exact hw
    · cases hnil
  obtain ⟨s, hs, heq⟩ := List.mem_map.mp hwritten
  obtain ⟨rfl, rfl⟩ := Prod.mk.inj heq
  obtain ⟨hmem, hcallable⟩ := List.mem_filter.mp hs
  obtain ⟨g, hg, hs⟩ := List.mem_flatMap.mp hmem
  obtain ⟨w, hss⟩ := exists_groupStickers h hg
  exact ⟨g, hg, s, hs, hss.shortcode hs (Bool.and_eq_true_iff.mp hcallable).1, rfl⟩

/-- What is in the table is found in it. -/
theorem lookup_shortcodeMap {gs : List Group} {code url : String}
    (h : (code, url) ∈ shortcodeMap gs) : (shortcodeMap gs).lookup code = some url := by
  have hkeys : ((shortcodeMap gs).map (·.1)).Nodup := Pairs.nodup_keys_putAll _ List.nodup_nil
  have hlookup := Pairs.lookup_putAll_of_mem _ hkeys h []
  rwa [Pairs.putAll_of_nodup hkeys] at hlookup

end StickerPages.Catalog

namespace StickerPages.Content

open Catalog

/-! ## Codes that a page knows -/

theorem isName_of_code? {code : Code} (h : code? cs = some (code, rest)) : IsName code.name := by
  unfold code? at h
  dsimp only at h
  split at h
  · split at h
    · cases h
    · next hname =>
      cases h
      exact isName_takeWhile fun hempty => hname (by rw [hempty, Bool.true_or])
  · cases h

/-- **A page that is a known code becomes its picture**, with the address read once more for escaped
codes. -/
theorem render_code {map : List (String × String)} {url inner : String}
    (hknown : map.lookup (":" ++ inner ++ ":") = some url) (hinner : IsName inner.toList) :
    render map "" (":" ++ inner ++ ":") = picture (unescaped url) inner "" := by
  let code : Code := ⟨[], inner.toList, []⟩
  have hwf : ∀ g ∈ [Segment.code code], g.WellFormed := by
    intro g hg
    obtain rfl := List.mem_singleton.mp hg
    exact ⟨List.forall_mem_nil _, hinner, List.forall_mem_nil _⟩
  have hpage : (":" ++ inner ++ ":").toList = [Segment.code code].flatMap Segment.written := by
    simp [Segment.written, Code.written, code]
  have hfilled : [Segment.code code].flatMap (Segment.halfFilled map "") =
      (picture url inner "").toList ++ [] := by
    have hcode : map.lookup (":" ++ String.ofList code.name ++ ":") = some url := by
      rwa [String.ofList_toList]
    have hhalf : (Segment.code code).halfFilled map "" = (Segment.code code).filled map "" := rfl
    rw [List.flatMap_singleton, hhalf, Segment.filled_known hcode, String.ofList_toList,
      List.append_nil]
  have hplain : unescaped inner = inner :=
    unescaped_of_not_mem hinner.not_mem_slash
  rw [render, hpage, fill_segments hwf true trivial, hfilled, unescape_picture, hplain,
    unescape, List.append_nil, String.ofList_toList]

theorem unescape_colon (cs : List Char) : ∃ r, unescape (':' :: cs) = ':' :: r := by
  cases h : escapedCode? (':' :: cs) with
  | some r => exact ⟨_, unescape_of_some h⟩
  | none => exact ⟨_, unescape_of_none h⟩

/-- No picture begins with a colon. -/
theorem unescape_colon_ne_picture (url alt : String) :
    unescape (':' :: cs) ≠ (picture url alt "").toList := by
  obtain ⟨r, hr⟩ := unescape_colon cs
  obtain ⟨t, ht⟩ := picture_head url alt ""
  rw [hr, ht]
  exact fun h => absurd (List.cons.inj h).1 (by decide)

/-- **A picture that a page begins with has a name for its text.** So a page that begins with a
colon becomes no other picture. -/
theorem isName_of_render {map : List (String × String)} {url inner : String}
    (h : render map "" (String.ofList (':' :: cs)) = picture url inner "") :
    IsName inner.toList := by
  have hread : unescape (fill map "" (':' :: cs)) = (picture url inner "").toList := by
    rw [← h, render, String.toList_ofList, String.toList_ofList]
  unfold fill at hread
  rw [pieces, if_pos (by decide)] at hread
  split at hread
  · next code rest hcode =>
    have hname := isName_of_code? hcode
    rw [List.flatMap_cons, fillPiece] at hread
    split at hread
    · next known _ =>
      -- a picture stands in front, and its text is the code's name
      have hplain : unescaped (String.ofList code.name) = String.ofList code.name :=
        unescaped_of_not_mem (by rw [String.toList_ofList]; exact hname.not_mem_slash)
      rw [unescape_picture, hplain, ← List.append_nil (picture url inner "").toList] at hread
      rw [← (picture_append_inj hread).2.1, String.toList_ofList]
      exact hname
    · exact absurd hread (unescape_colon_ne_picture url inner)
  · rw [List.flatMap_cons] at hread
    exact absurd hread (unescape_colon_ne_picture url inner)

/-- **A page that is a code from a catalog becomes that code's picture just if all characters of the
code can stand in a name,** and the address behind it holds no escaped code. -/
theorem render_shortcode {v : Value} {gs : List Group} (h : ofValue v = .ok gs)
    {code url : String} (hmem : (code, url) ∈ shortcodeMap gs) :
    ∃ g ∈ gs, ∃ s ∈ g.stickers, url = s.original ∧
      let inner := tagOf g.name ++ "_" ++ s.name
      code = ":" ++ inner ++ ":" ∧
      (render (shortcodeMap gs) "" code = picture url inner "" ↔
        (∀ c ∈ inner.toList, isNameChar c = true) ∧ unescape url.toList = url.toList) := by
  obtain ⟨g, hg, s, hs, hcode, horiginal⟩ := exists_of_mem_shortcodeMap h hmem
  refine ⟨g, hg, s, hs, horiginal, ?_⟩
  intro inner
  have hinner : code = ":" ++ inner ++ ":" := by
    rw [hcode, shortcodeOf]
    simp only [inner, String.append_assoc]
  have hknown := lookup_shortcodeMap hmem
  rw [hinner] at hknown ⊢
  refine ⟨rfl, fun hrender => ?_, fun hboth => ?_⟩
  · have hpage : ":" ++ inner ++ ":" = String.ofList (':' :: (inner.toList ++ [':'])) := by
      rw [← String.toList_inj]
      simp
    have hname : IsName inner.toList := isName_of_render (hpage ▸ hrender)
    -- the picture is there, but with the address as it was read
    rw [render_code hknown hname] at hrender
    refine ⟨hname.2, ?_⟩
    have hsame : (picture (unescaped url) inner "").toList ++ [] =
        (picture url inner "").toList ++ [] := by rw [hrender]
    rw [← String.toList_ofList (l := unescape url.toList)]
    exact congrArg String.toList (picture_append_inj hsame).1
  · obtain ⟨hchars, hurl⟩ := hboth
    have hplain : unescaped url = url := by rw [unescaped, hurl, String.ofList_toList]
    have hne : inner.toList ≠ [] := by simp [inner]
    rw [render_code hknown ⟨hne, hchars⟩, hplain]

/-- The blank of a group's name stands in no code. -/
theorem render_shortcode_wave :
    ofValue (flatCatalog "my pack" "wave" "/w.png") = .ok [groupWith "my pack" "wave" "/w.png"] ∧
      (":my_pack_wave:", "/w.png") ∈ shortcodeMap [groupWith "my pack" "wave" "/w.png"] ∧
      render (shortcodeMap [groupWith "my pack" "wave" "/w.png"]) "" ":my_pack_wave:" =
        picture "/w.png" "my_pack_wave" "" := by
  have hread : ofValue (flatCatalog "my pack" "wave" "/w.png") =
      .ok [groupWith "my pack" "wave" "/w.png"] := ofValue_flatCatalog (.inr (by decide))
  have hmem : (":my_pack_wave:", "/w.png") ∈
      shortcodeMap [groupWith "my pack" "wave" "/w.png"] := by
    rw [shortcodeMap_groupWith (by decide)]
    decide +kernel
  have hurl : unescape "/w.png".toList = "/w.png".toList := unescape_of_not_mem (by decide)
  refine ⟨hread, hmem, ?_⟩
  obtain ⟨g, hg, s, hs, -, -, hiff⟩ := render_shortcode hread hmem
  obtain rfl := List.mem_singleton.mp hg
  obtain rfl := List.mem_singleton.mp hs
  have htag : tagOf "my pack" = "my_pack" := by decide +kernel
  rw [show tagOf (groupWith "my pack" "wave" "/w.png").name = "my_pack" from htag] at hiff
  exact hiff.mpr ⟨List.all_eq_true.mp (by decide), hurl⟩

/-- A code with a point in it stays as it is written. -/
theorem render_shortcode_point :
    ¬∀ (v : Value) (gs : List Group) (inner url : String), ofValue v = .ok gs →
      (":" ++ inner ++ ":", url) ∈ shortcodeMap gs →
      render (shortcodeMap gs) "" (":" ++ inner ++ ":") = picture url inner "" := by
  intro h
  have hread : ofValue (flatCatalog "g" "a.b" "/x.png") = .ok [groupWith "g" "a.b" "/x.png"] :=
    ofValue_flatCatalog (.inr (by decide))
  have hmem : (":" ++ "g_a.b" ++ ":", "/x.png") ∈ shortcodeMap [groupWith "g" "a.b" "/x.png"] := by
    rw [shortcodeMap_groupWith (by decide)]
    decide +kernel
  have hrender := h _ _ _ _ hread hmem
  have hpage : ":" ++ "g_a.b" ++ ":" = String.ofList (':' :: "g_a.b:".toList) := by decide +kernel
  rw [hpage] at hrender
  exact absurd ((isName_of_render hrender).2 '.' (by decide)) (by decide)

end StickerPages.Content
