import StickerPages.Proofs.Weaving

/-!
# Pictures under the second reading

The second reading of a page undoes the escapes of the page, and it goes over the pictures that the
first reading has just put there as well. A picture is never cut in two by it, nor joined with what
stands around it: an escaped code cannot go over the bracket of a tag, nor over the quote marks of a
value. But in the address and in the style an escaped code is undone like one of the page.

So a picture stays as it was made exactly if neither of them holds an escaped code
(`unescape_eq_self_iff`); colons and backslashes alone do no harm.
-/

namespace StickerPages.Content

open Markup

variable {cs name rest : List Char} {s : String}

/-! ## Texts that hold an escaped code -/

/-- An escaped code stands somewhere in the text. -/
def HoldsEscaped (cs : List Char) : Prop :=
  ∃ name, IsName name ∧ ∃ form ∈ escapedForms name, form <:+: cs

theorem holdsEscaped_of_escapedCode? (h : escapedCode? cs = some (name, rest)) :
    HoldsEscaped cs := by
  obtain ⟨hname, form, hform, rfl⟩ := escapedCode?_eq_some_iff.mp h
  exact ⟨name, hname, form, hform, (List.prefix_append form rest).isInfix⟩

/-- An escaped code stands at the start of the text, or in the rest of it. -/
theorem holdsEscaped_cons {c : Char} (hread : escapedCode? (c :: cs) = none) :
    HoldsEscaped (c :: cs) ↔ HoldsEscaped cs := by
  constructor
  · rintro ⟨name, hname, form, hform, hinfix⟩
    rcases List.infix_cons_iff.mp hinfix with ⟨back, hback⟩ | hinfix
    · rw [← hback, escapedCode?_written hname hform] at hread
      cases hread
    · exact ⟨name, hname, form, hform, hinfix⟩
  · rintro ⟨name, hname, form, hform, hinfix⟩
    exact ⟨name, hname, form, hform, List.infix_cons hinfix⟩

/-- Undoing an escaped code takes a backslash at least. -/
theorem length_lt_of_mem_escapedForms {form : List Char} (h : form ∈ escapedForms name) :
    name.length + 2 < form.length := by
  simp only [escapedForms, List.mem_cons, List.not_mem_nil, or_false] at h
  rcases h with rfl | rfl | rfl <;> simp

/-- **The second reading takes backslashes where there is an escaped code**, and nothing elsewhere.
-/
theorem length_unescape (cs : List Char) :
    (unescape cs).length ≤ cs.length ∧ (HoldsEscaped cs → (unescape cs).length < cs.length) := by
  induction hn : cs.length using Nat.strongRecOn generalizing cs with
  | ind n ih =>
      subst hn
      cases hread : escapedCode? cs with
      | some found =>
          obtain ⟨name, rest⟩ := found
          have hrest := (ih rest.length (escapedCode?_lt hread) rest rfl).1
          obtain ⟨-, form, hform, rfl⟩ := escapedCode?_eq_some_iff.mp hread
          have hform := length_lt_of_mem_escapedForms hform
          have hlt : (unescape (form ++ rest)).length < (form ++ rest).length := by
            rw [unescape_of_some hread]
            simp only [List.length_cons, List.length_append]
            omega
          exact ⟨hlt.le, fun _ => hlt⟩
      | none =>
          cases cs with
          | nil =>
              refine ⟨by rw [unescape], ?_⟩
              rintro ⟨name, -, form, hform, hinfix⟩
              have hlt := length_lt_of_mem_escapedForms hform
              rw [List.infix_nil.mp hinfix] at hlt
              cases hlt
          | cons c r =>
              obtain ⟨hle, hlt⟩ := ih r.length (by simp) r rfl
              rw [unescape_of_none hread, holdsEscaped_cons hread]
              exact ⟨Nat.succ_le_succ hle, fun h => Nat.succ_lt_succ (hlt h)⟩

/-- **The second reading leaves a text alone exactly if it holds no escaped code.** -/
theorem unescape_eq_self_iff : unescape cs = cs ↔ ¬HoldsEscaped cs := by
  refine ⟨fun heq h => ?_, fun h => ?_⟩
  · exact absurd ((length_unescape cs).2 h) (by rw [heq]; exact lt_irrefl _)
  · induction cs with
    | nil => rw [unescape]
    | cons c r ih =>
        have hread : escapedCode? (c :: r) = none :=
          Option.eq_none_iff_forall_ne_some.mpr fun _ hs => h (holdsEscaped_of_escapedCode? hs)
        rw [unescape_of_none hread, ih (mt (holdsEscaped_cons hread).mpr h)]

theorem unescaped_eq_self_iff : unescaped s = s ↔ ¬HoldsEscaped s.toList := by
  rw [← unescape_eq_self_iff, unescaped, ← String.toList_inj, String.toList_ofList]

/-! ## The pictures of a page -/

theorem picture_inj {url url' alt alt' style style' : String} :
    picture url alt style = picture url' alt' style' ↔
      url = url' ∧ alt = alt' ∧ style = style' := by
  refine ⟨fun h => ?_, fun ⟨hurl, halt, hstyle⟩ => by rw [hurl, halt, hstyle]⟩
  have hsame : (picture url alt style).toList ++ [] = (picture url' alt' style').toList ++ [] := by
    rw [h]
  obtain ⟨hurl, halt, hstyle, -⟩ := picture_append_inj hsame
  exact ⟨hurl, halt, hstyle⟩

/-- **A picture that the first reading makes is a picture after the second**, at its place between
the texts and pictures around it, each of them read by itself. Its address and its style are those
that were asked for without their escaped codes. So the address is the table's exactly if that holds
no escaped code, the style is the one asked for exactly if that holds none, and the tag is left as
it was made exactly if neither does. -/
theorem render_picture {map : List (String × String)} {style content url : String}
    {front back : List (Char ⊕ Code)} {code : Code}
    (hcut : pieces false content.toList = front ++ .inr code :: back)
    (hknown : map.lookup (":" ++ String.ofList code.name ++ ":") = some url) :
    let before := front.flatMap (fillPiece map style)
    let after := back.flatMap (fillPiece map style)
    let made := picture url (String.ofList code.name) style
    let left := picture (unescaped url) (String.ofList code.name) (unescaped style)
    let e := Element.ofTag "img"
      (pictureAttrs (unescaped url) (String.ofList code.name) (unescaped style))
    fill map style content.toList = before ++ (made.toList ++ after) ∧
      (render map style content).toList = unescape before ++ (left.toList ++ unescape after) ∧
      (∀ rest, piecesOf none (left.toList ++ rest) =
        .start "img" (pictureAttrs (unescaped url) (String.ofList code.name) (unescaped style))
          false :: piecesOf none rest) ∧
      (e.attr? "src" = some (.text url) ↔ ¬HoldsEscaped url.toList) ∧
      (e.attr? "style" = some (.text (baseStyle ++ style)) ↔ ¬HoldsEscaped style.toList) ∧
      (left = made ↔ ¬HoldsEscaped url.toList ∧ ¬HoldsEscaped style.toList) := by
  intro before after made left e
  have hfill : fill map style content.toList = before ++ (made.toList ++ after) := by
    rw [fill, hcut, List.flatMap_append, List.flatMap_cons, fillPiece, hknown]
  have hname : unescaped (String.ofList code.name) = String.ofList code.name := by
    have hcode : (Segment.code code).WellFormed :=
      (cut_pieces false content.toList).wellFormed (by rw [hcut]; simp)
    exact unescaped_of_not_mem (by rw [String.toList_ofList]; exact hcode.2.1.not_mem_slash)
  have helement : e = pictureElement (unescaped url) (String.ofList code.name) (unescaped style) :=
    ofTag_pictureAttrs ..
  have hsrc : e.attr? "src" = some (.text (unescaped url)) := by
    rw [helement]
    rfl
  have hstyle : e.attr? "style" = some (.text (baseStyle ++ unescaped style)) := by
    rw [helement]
    rfl
  refine ⟨hfill, ?_, piecesOf_picture _ _ _, ?_, ?_, ?_⟩
  · rw [toList_render, rendered, hfill, unescape_append_picture, hname]
  · rw [hsrc, Option.some_inj, AttrValue.text.injEq, unescaped_eq_self_iff]
  · rw [hstyle, Option.some_inj, AttrValue.text.injEq, ← unescaped_eq_self_iff, ← String.toList_inj,
      String.toList_append, String.toList_append, List.append_cancel_left_eq, String.toList_inj]
  · rw [picture_inj, unescaped_eq_self_iff, unescaped_eq_self_iff]
    simp only [true_and]

/-- Beside an escaped code of the page: an address with a colon and a backslash, but with no escaped
code. -/
theorem render_picture_besideEscaped :
    pieces false "\\:b\\: :a:".toList =
        "\\:b\\: ".toList.map .inl ++ .inr ⟨[], ['a'], []⟩ :: [] ∧
      [(":a:", "c:\\x")].lookup (":" ++ String.ofList ['a'] ++ ":") = some "c:\\x" ∧
      ¬HoldsEscaped "c:\\x".toList ∧
      (render [(":a:", "c:\\x")] "" "\\:b\\: :a:").toList =
        ":b: ".toList ++ (picture "c:\\x" "a" "").toList := by
  have hcut : pieces false "\\:b\\: :a:".toList =
      "\\:b\\: ".toList.map .inl ++ .inr ⟨[], ['a'], []⟩ :: [] := by decide +kernel
  have hknown : [(":a:", "c:\\x")].lookup (":" ++ String.ofList ['a'] ++ ":") =
      some "c:\\x" := by decide
  have hurl : ¬HoldsEscaped "c:\\x".toList := unescape_eq_self_iff.mp (by decide +kernel)
  have hstyle : ¬HoldsEscaped "".toList := unescape_eq_self_iff.mp (by decide +kernel)
  obtain ⟨-, hrender, -, -, -, hleft⟩ := @render_picture _ "" _ _ _ _ _ hcut hknown
  have hbefore : unescape (("\\:b\\: ".toList.map .inl).flatMap
      (fillPiece [(":a:", "c:\\x")] "")) = ":b: ".toList := by decide +kernel
  rw [hbefore, hleft.mpr ⟨hurl, hstyle⟩, List.flatMap_nil, unescape, List.append_nil] at hrender
  exact ⟨hcut, hknown, hurl, hrender⟩

/-- An escaped code in an address does not come through. -/
theorem render_picture_escapedAddress :
    ¬∀ (map : List (String × String)) (style content url : String)
      (front back : List (Char ⊕ Code)) (code : Code),
      pieces false content.toList = front ++ .inr code :: back →
      map.lookup (":" ++ String.ofList code.name ++ ":") = some url →
      (picture url (String.ofList code.name) style).toList <:+:
        (render map style content).toList := by
  intro h
  have hcut : pieces false ":a:".toList = [] ++ [.inr ⟨[], ['a'], []⟩] := by decide +kernel
  have hknown : [(":a:", "/\\:x\\:.png")].lookup (":" ++ "a" ++ ":") =
      some "/\\:x\\:.png" := by decide
  have hrender : render [(":a:", "/\\:x\\:.png")] "" ":a:" = picture "/:x:.png" "a" "" := by
    have hname : IsName "a".toList := ⟨by decide, List.all_eq_true.mp (by decide)⟩
    have hread : unescaped "/\\:x\\:.png" = "/:x:.png" := by decide +kernel
    exact (render_code hknown hname).trans (by rw [hread])
  have hslash : '\\' ∈ (picture "/\\:x\\:.png" "a" "").toList := by
    rw [toList_picture]
    decide +kernel
  have hheld := h _ "" ":a:" _ [] [] _ hcut hknown
  rw [hrender] at hheld
  exact not_mem_picture (by decide) (by decide) (by decide) (hheld.subset hslash)

end StickerPages.Content
