import Mathlib.Data.List.TakeWhile
import StickerPages.Proofs.Letters
import StickerPages.Proofs.Writes
import StickerPages.Style.Sizes

/-!
# A style that is written again

Sizes are written into a style by reading its declarations, putting six of them in place and writing
all of them down. To do so again changes nothing if what was written down is read back as it was
(`parse_serialize`), and for that two things are needed. Names and values have to be such as reading
gives (`Readable`): trimmed, in small letters, no colon in a name. They are, by where they came from.
And each declaration has to end where it is written to end: no quotes or parentheses are left open in
it, and its last character is no backslash that would take the meaning of the semicolon behind it
(`Whole`). A style need not be like that. Of one that is not, the end swallows the declarations
written behind it, and every writing makes it longer (`not_style_again`).

If what a style says besides the sizes leaves nothing open (`Closed`), only the last writing counts,
however many there were before (`style_after_styles`).
-/

namespace StickerPages.Style

open Markup

/-! ## Cuts -/

/-- Where a reading stands after more text; nothing if there is a cut in it. -/
def Cursor.over (separator : Char) (s : Cursor) (cs : List Char) : Option Cursor :=
  cs.foldlM (Cursor.advance separator) s

/-- Text without a cut belongs to the current part. -/
theorem splitFrom_over {separator : Char} {cs : List Char} :
    ∀ {s s' : Cursor}, s.over separator cs = some s' → ∀ part rest,
      splitFrom separator s part (cs ++ rest) =
        splitFrom separator s' (cs.reverse ++ part) rest := by
  induction cs with
  | nil =>
      intro s s' h part rest
      cases h
      rfl
  | cons c r ih =>
      intro s s' h part rest
      obtain ⟨t, ht, hr⟩ := Option.bind_eq_some_iff.mp h
      rw [List.cons_append, splitFrom, ht]
      dsimp only
      rw [ih hr, List.reverse_cons, List.append_assoc]
      rfl

/-- Text that leaves nothing open is cut off at the semicolon behind it. -/
theorem splitTopLevel_cons {cs : List Char} (h : Cursor.outside.over ';' cs = some .outside)
    (rest : List Char) :
    splitTopLevel ';' (cs ++ ';' :: rest) = cs :: splitTopLevel ';' rest := by
  have hcut : Cursor.advance ';' .outside ';' = none := by decide
  rw [splitTopLevel, splitFrom_over h, splitFrom, hcut, List.append_nil, List.reverse_reverse]
  rfl

/-! ## Declarations in writing -/

/-- A declaration as it is written. -/
def written (d : String × String) : List Char := d.1.toList ++ ':' :: ' ' :: d.2.toList

/-- A declaration leaves nothing open at its end. -/
def Whole (d : String × String) : Prop := Cursor.outside.over ';' (written d) = some .outside

instance : DecidablePred Whole := fun d =>
  inferInstanceAs (Decidable (Cursor.outside.over ';' (written d) = some .outside))

/-- Declarations behind another one. -/
def following : Declarations → List Char
  | [] => []
  | d :: r => ' ' :: written d ++ ';' :: following r

theorem toList_serialize (d : String × String) (ds : Declarations) :
    (serialize (d :: ds)).toList = written d ++ ';' :: following ds := by
  have hwritten (e : String × String) : (e.1 ++ ": " ++ e.2).toList = written e := by
    simp [written]
  rw [serialize, String.toList_append, String.toList_intercalate, List.map_map]
  induction ds generalizing d with
  | nil => simp [following, hwritten]
  | cons e r ih =>
      have hnext := ih e
      rw [List.map_cons] at hnext
      rw [List.map_cons, List.map_cons, List.intercalate_cons_cons, List.append_assoc, hnext]
      simp [following, hwritten]

/-- Whole declarations are cut where they end. -/
theorem splitTopLevel_following {ds : Declarations} (h : ∀ d ∈ ds, Whole d) :
    splitTopLevel ';' (following ds) = ds.map (fun d => ' ' :: written d) ++ [[]] := by
  induction ds with
  | nil => rfl
  | cons d r ih =>
      have hspace : Cursor.outside.over ';' (' ' :: written d) = some .outside :=
        h d List.mem_cons_self
      rw [following, splitTopLevel_cons hspace,
        ih fun e he => h e (List.mem_cons_of_mem d he)]
      rfl

/-! ## What reading gives -/

/-- A name and a value such as reading gives. -/
structure Readable (d : String × String) : Prop where
  noColon : ':' ∉ d.1.toList
  nameTrimmed : Text.Trimmed d.1.toList
  named : d.1.toList ≠ []
  small : nameKey d.1.toList = d.1
  valueTrimmed : Text.Trimmed d.2.toList

/-- The name of a declaration, before the letters are made small. -/
def rawName (part : List Char) : List Char := Text.trim (part.takeWhile (· != ':'))

theorem nameKey_nameKey (name : List Char) : nameKey (nameKey name).toList = nameKey name := by
  unfold nameKey
  rw [String.toList_ofList]
  congr 1
  by_cases hcustom : isCustom name
  · rw [if_pos hcustom, if_pos hcustom]
  · rw [if_neg hcustom]
    split
    · rfl
    · exact Text.small_small name

theorem declaration?_eq_some {part : List Char} {d : String × String}
    (h : declaration? part = some d) :
    rawName part ≠ [] ∧ d.1 = nameKey (rawName part) ∧ Text.Trimmed d.2.toList := by
  unfold declaration? at h
  split at h
  · dsimp only at h
    split at h
    · cases h
    · next hname =>
      cases h
      refine ⟨by simpa [rawName] using hname, rfl, ?_⟩
      rw [String.toList_ofList]
      exact Text.trimmed_trim _
  · cases h

theorem readable_of_declaration? {part : List Char} {d : String × String}
    (h : declaration? part = some d) : Readable d := by
  obtain ⟨hname, hd, hvalue⟩ := declaration?_eq_some h
  have hcolon : ':' ∉ rawName part := by
    intro hmem
    have hne := List.mem_takeWhile_imp (Text.mem_of_mem_trim hmem)
    simp at hne
  have htrimmed : Text.Trimmed (rawName part) := Text.trimmed_trim _
  refine ⟨?_, ?_, ?_, by rw [hd, nameKey_nameKey], hvalue⟩
  all_goals
    rw [hd, nameKey, String.toList_ofList]
    split
  · exact hcolon
  · exact fun hmem => hcolon (Text.mem_of_mem_small hmem (by decide))
  · exact htrimmed
  · exact htrimmed.small
  · exact hname
  · exact Text.small_ne_nil hname

theorem ne_colon {name : List Char} (h : ':' ∉ name) : ∀ c ∈ name, (c != ':') = true :=
  fun _ hc => bne_iff_ne.mpr (ne_of_mem_of_not_mem hc h)

/-- A blank in front of a declaration does not count. -/
theorem declaration?_blank (part : List Char) :
    declaration? (' ' :: part) = declaration? part := by
  have hcontains : (' ' :: part).contains ':' = part.contains ':' := by
    rw [List.contains_cons]
    rfl
  have hspace : Text.isBlank ' ' = true := by decide
  unfold declaration?
  dsimp only
  rw [hcontains, List.takeWhile_cons_of_pos (by decide), List.dropWhile_cons_of_pos (by decide),
    Text.trim, Text.trimLeft_cons_blank hspace, ← Text.trim]

/-- A readable declaration is read back, whatever blank stands in front of it. -/
theorem declaration?_written {d : String × String} (h : Readable d) :
    declaration? (written d) = some d ∧ declaration? (' ' :: written d) = some d := by
  have hname := ne_colon h.noColon
  have htake : (written d).takeWhile (· != ':') = d.1.toList := by
    rw [written, List.takeWhile_append_of_pos hname]
    simp
  have hdrop : (written d).dropWhile (· != ':') = ':' :: ' ' :: d.2.toList := by
    rw [written, List.dropWhile_append_of_pos hname]
    rfl
  have hcontains : (written d).contains ':' = true := by simp [written]
  have hblank : Text.isBlank ' ' = true := by decide
  have hvalue : Text.trim (' ' :: d.2.toList) = d.2.toList := by
    rw [Text.trim, Text.trimLeft_cons_blank hblank]
    exact h.valueTrimmed.trim
  have hread : nameKey d.1.toList = d.1 ∧ d.1.toList.isEmpty = false :=
    ⟨h.small, by simpa using h.named⟩
  have hplain : declaration? (written d) = some d := by
    rw [declaration?, if_pos hcontains, htake, hdrop, h.nameTrimmed.trim]
    simp [hread, hvalue]
  exact ⟨hplain, (declaration?_blank _).trans hplain⟩

/-! ## Reading what was written -/

theorem nodup_keys_parse (style : String) : ((parse style).map (·.1)).Nodup :=
  Pairs.nodup_keys_putAll _ List.nodup_nil

theorem exists_part_of_mem_parse {style : String} {d : String × String} (h : d ∈ parse style) :
    ∃ part ∈ splitTopLevel ';' style.toList, declaration? part = some d := by
  have hkeys : (([] : Declarations).map (·.1)).Nodup := List.nodup_nil
  rcases Pairs.mem_putAll _ hkeys h with hd | ⟨hd, -⟩
  · exact List.mem_filterMap.mp hd
  · cases hd

theorem readable_of_mem_parse {style : String} {d : String × String} (h : d ∈ parse style) :
    Readable d := by
  obtain ⟨part, -, hpart⟩ := exists_part_of_mem_parse h
  exact readable_of_declaration? hpart

/-- **Declarations are read back as they were written,** if each of them leaves nothing open. -/
theorem parse_serialize {ds : Declarations} (hne : ds ≠ []) (hn : (ds.map (·.1)).Nodup)
    (hread : ∀ d ∈ ds, Readable d) (hwhole : ∀ d ∈ ds, Whole d) : parse (serialize ds) = ds := by
  cases ds with
  | nil => exact absurd rfl hne
  | cons d r =>
      rw [List.forall_mem_cons] at hread hwhole
      have hrest : (r.map fun e => ' ' :: written e).filterMap declaration? = r := by
        rw [List.filterMap_map]
        exact (List.filterMap_congr fun e he => (declaration?_written (hread.2 e he)).2).trans
          List.filterMap_some
      rw [parse, toList_serialize, splitTopLevel_cons hwhole.1, splitTopLevel_following hwhole.2,
        List.filterMap_cons, (declaration?_written hread.1).1, List.filterMap_append, hrest]
      have hend : [[]].filterMap declaration? = [] := rfl
      rw [hend, List.append_nil]
      exact Pairs.putAll_of_nodup hn

/-! ## Sizes written again -/

/-- The names that sizes are written to. -/
def forcedNames : List String :=
  ["max-width", "max-height", "width", "height", "display", "vertical-align"]

theorem nodup_forcedNames : forcedNames.Nodup := by decide

/-- Sizes such as are read back when they are written. -/
def Sizes.Plain (sizes : Sizes) : Prop :=
  ∀ solo, ∀ d ∈ sizes.forced solo, declaration? (written d) = some d ∧ Whole d

/-- What a style says besides the sizes leaves nothing open. -/
def Closed (style : String) : Prop :=
  ∀ d ∈ parse style, d.1 ∉ forcedNames → Whole d

variable {sizes : Sizes} {style : String}

/-- The declarations of a style with sizes in it are those that were written. -/
theorem parse_restyle (hs : sizes.Plain) (h : Closed style) (solo : Bool) :
    parse (sizes.restyle solo style) = Pairs.putAll (parse style) (sizes.forced solo) := by
  have hmem {d : String × String} (hd : d ∈ Pairs.putAll (parse style) (sizes.forced solo)) :
      d ∈ sizes.forced solo ∨ d ∈ parse style ∧ d.1 ∉ forcedNames :=
    Pairs.mem_putAll _ (nodup_keys_parse style) hd
  have hne : Pairs.putAll (parse style) (sizes.forced solo) ≠ [] := by
    intro hnil
    have hlook := Pairs.lookup_putAll_of_mem (sizes.forced solo) nodup_forcedNames
      List.mem_cons_self (parse style)
    rw [hnil] at hlook
    cases hlook
  refine parse_serialize hne (Pairs.nodup_keys_putAll _ (nodup_keys_parse style)) ?_ ?_
  · intro d hd
    rcases hmem hd with hd | ⟨hd, -⟩
    · exact readable_of_declaration? (hs solo d hd).1
    · exact readable_of_mem_parse hd
  · intro d hd
    rcases hmem hd with hd | ⟨hd, hname⟩
    · exact (hs solo d hd).2
    · exact h d hd hname

theorem Closed.restyle (hs : sizes.Plain) (h : Closed style) (solo : Bool) :
    Closed (sizes.restyle solo style) := by
  intro d hd hname
  rw [parse_restyle hs h] at hd
  rcases Pairs.mem_putAll _ (nodup_keys_parse style) hd with hd | ⟨hd, -⟩
  · exact (hs solo d hd).2
  · exact h d hd hname

/-- Of sizes that are written twice the second ones count. -/
theorem restyle_restyle (hs : sizes.Plain) (h : Closed style) (solo again : Bool) :
    sizes.restyle again (sizes.restyle solo style) = sizes.restyle again style := by
  have hkeys : (sizes.forced solo).map (·.1) = (sizes.forced again).map (·.1) := rfl
  rw [Sizes.restyle, parse_restyle hs h, Pairs.putAll_putAll hkeys nodup_forcedNames]
  rfl

/-- The style text of an element; where there is no style it is empty. -/
def styleText (e : Element) : String :=
  match e.attr? "style" with
  | some v => v.joined
  | none => ""

theorem style_eq (sizes : Sizes) (solo : Bool) (e : Element) :
    sizes.style solo e = e.withAttr "style" (.text (sizes.restyle solo (styleText e))) := rfl

theorem styleText_style (sizes : Sizes) (solo : Bool) (e : Element) :
    styleText (sizes.style solo e) = sizes.restyle solo (styleText e) := by
  rw [style_eq, styleText, Element.attr?, Element.withAttr, Pairs.lookup_put_self]
  rfl

theorem style_style (hs : sizes.Plain) {e : Element} (h : Closed (styleText e))
    (solo again : Bool) : sizes.style again (sizes.style solo e) = sizes.style again e := by
  rw [style_eq, styleText_style, restyle_restyle hs h]
  simp only [style_eq, Element.withAttr, Pairs.put_put]

theorem Sizes.plain_default : Sizes.default.Plain := by
  unfold Sizes.Plain
  decide +kernel

/-- **Sizes that are written again change nothing,** however often and whatever they were before, if
the style leaves nothing open. -/
theorem style_after_styles {e : Element} (h : Closed (styleText e)) (verdicts : List Bool)
    (solo : Bool) :
    Sizes.default.style solo (verdicts.foldl (fun e v => Sizes.default.style v e) e) =
      Sizes.default.style solo e := by
  induction verdicts generalizing e with
  | nil => rfl
  | cons v r ih =>
      have hv : Closed (styleText (Sizes.default.style v e)) := by
        rw [styleText_style]
        exact h.restyle Sizes.plain_default v
      rw [List.foldl_cons, ih hv, style_style Sizes.plain_default h]

/-- An image with a semicolon in quotes, one in parentheses, and a size of its own. -/
def quotedImage : Element :=
  ⟨"img", [("style", .text "content: ';'; Width: 9px; background: url(a;b)")]⟩

theorem style_after_styles_quotedImage :
    Closed (styleText quotedImage) ∧
      Sizes.default.style true
          ([true, false].foldl (fun e v => Sizes.default.style v e) quotedImage) =
        Sizes.default.style true quotedImage := by
  have hclosed : Closed (styleText quotedImage) := by
    unfold Closed
    decide +kernel
  exact ⟨hclosed, style_after_styles hclosed [true, false] true⟩

/-- An image with a quote that is not closed. Written again, its style is longer. -/
def unclosedImage : Element := ⟨"img", [("style", .text "color: 'red")]⟩

theorem not_style_again :
    ¬ ∀ (e : Element) (solo : Bool),
      Sizes.default.style solo (Sizes.default.style solo e) = Sizes.default.style solo e := by
  intro h
  have hne : Sizes.default.style true (Sizes.default.style true unclosedImage) ≠
      Sizes.default.style true unclosedImage := by decide +kernel
  exact hne (h unclosedImage true)

end StickerPages.Style
