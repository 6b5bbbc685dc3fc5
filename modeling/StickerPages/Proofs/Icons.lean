import Mathlib.Data.List.Infix
import StickerPages.Proofs.Pictures
import StickerPages.Proofs.Shapes
import StickerPages.Proofs.Writes

/-!
# Addresses in icons

An icon is markup, and its addresses are the values of two attributes, `src` and `origin`. They are
not read out of it, but looked for in its text: what is quoted behind the first `src="` is taken, up
to the next quote mark of either kind. A reader of markup sees the attribute of that name, with its
references resolved.

The two agree, as long as nothing in front of the attribute looks like it (`Apart`), exactly if the
address is written as it is and has no quote mark in it (`Verbatim`). A quote mark is never part of
what is found (`addresses_noQuoteMark`); an ampersand is, but as it is written.
-/

namespace StickerPages.Catalog

open Markup Content

variable {f : Char → List Char} {key cs rest : List Char} {q : Char}
  {attrs : List (String × String)} {name : String}

/-! ## What is found -/

theorem noQuoteMark_completeUrl_iff {url : String} :
    (∀ c ∈ (completeUrl url).toList, isQuoteMark c = false) ↔
      ∀ c ∈ url.toList, isQuoteMark c = false := by
  have hfront : ∀ c ∈ if "//".toList <+: url.toList then "https:".toList else [],
      isQuoteMark c = false := by
    split
    · exact noQuoteMark (by decide)
    · exact List.forall_mem_nil _
  rw [toList_completeUrl, List.forall_mem_append]
  exact and_iff_right hfront

/-- The key that is looked for: the name of an attribute, and an equals sign. -/
def keyOf (name : String) : List Char := name.toList ++ ['=']

/-- What is found of an attribute of this name. -/
def found? (icon name : String) : Option String :=
  (valueBehind? (keyOf name) icon.toList).map String.ofList

/-- Of the two addresses each stands in for the other. -/
theorem addresses_eq (icon : String) :
    addresses icon =
      (completeUrl ((found? icon "origin").getD ((found? icon "src").getD "")),
        completeUrl ((found? icon "src").getD ((found? icon "origin").getD ""))) := by
  have hsource : "src=".toList = keyOf "src" := by decide
  have horiginal : "origin=".toList = keyOf "origin" := by decide
  unfold addresses found?
  rw [← hsource, ← horiginal]
  dsimp only
  cases (valueBehind? "src=".toList icon.toList).map String.ofList <;> rfl

theorem noQuoteMark_getD_found? {icon name default : String}
    (hdefault : ∀ c ∈ default.toList, isQuoteMark c = false) :
    ∀ c ∈ ((found? icon name).getD default).toList, isQuoteMark c = false := by
  cases hvalue : found? icon name with
  | none => exact hdefault
  | some value =>
      obtain ⟨cs, hcs, rfl⟩ := Option.map_eq_some_iff.mp hvalue
      rw [Option.getD_some, String.toList_ofList]
      exact (of_valueBehind?_eq_some hcs).2

/-- **No address that is found has a quote mark in it.** -/
theorem addresses_noQuoteMark (icon : String) :
    (∀ c ∈ (addresses icon).1.toList, isQuoteMark c = false) ∧
      ∀ c ∈ (addresses icon).2.toList, isQuoteMark c = false := by
  have hempty : ∀ c ∈ "".toList, isQuoteMark c = false := noQuoteMark (by decide)
  rw [addresses_eq]
  exact ⟨noQuoteMark_completeUrl_iff.mpr (noQuoteMark_getD_found? (noQuoteMark_getD_found? hempty)),
    noQuoteMark_completeUrl_iff.mpr (noQuoteMark_getD_found? (noQuoteMark_getD_found? hempty))⟩

/-! ## The search in a tag -/

theorem valueBehind?_skip {c : Char} (hne : key ≠ []) (hc : key.head? ≠ some c) :
    valueBehind? key (c :: cs) = valueBehind? key cs := by
  obtain ⟨d, k, rfl⟩ := List.exists_cons_of_ne_nil hne
  have hd : (d == c) = false := by simpa using hc
  rw [valueBehind?, List.isPrefixOf_cons_cons, hd, Bool.false_and, if_neg Bool.false_ne_true]

/-- The search goes over a text that has no key in front of a quote mark. -/
theorem valueBehind?_pass (hkey : ∀ c ∈ key, isQuoteMark c = false) (hne : key ≠ [])
    (hq : isQuoteMark q = true)
    (hnone : ∀ m, isQuoteMark m = true → ¬(key ++ [m]) <:+: cs ++ [q]) :
    valueBehind? key (cs ++ q :: rest) = valueBehind? key rest := by
  induction cs with
  | nil =>
      refine valueBehind?_skip hne fun hhead => ?_
      have hmark := hkey q (List.mem_of_mem_head? hhead)
      rw [hq] at hmark
      cases hmark
  | cons c r ih =>
      have hr := ih fun m hm hinfix => hnone m hm (List.infix_cons hinfix)
      rw [List.cons_append, valueBehind?, ← List.cons_append]
      split
      · next hprefix =>
        obtain ⟨t, ht⟩ := (isPrefixOf_append_quote hkey hq).mp hprefix
        -- behind the key stands no quote mark
        have hquoted : quoted? ((c :: r ++ q :: rest).drop key.length) = none := by
          rw [← ht, List.append_assoc, List.drop_left]
          refine quoted?_of_head fun d hd => Bool.eq_false_iff.mpr fun hmark => ?_
          refine hnone d hmark (List.IsPrefix.isInfix ?_)
          rw [← ht, List.append_assoc, List.prefix_append_right_inj]
          cases t with
          | nil =>
              cases hd
              exact List.prefix_rfl
          | cons e t =>
              cases hd
              exact ⟨t ++ [q], rfl⟩
        rw [hquoted]
        exact hr
      · exact hr

/-- A name that has no quote mark, and begins with nothing that a tag begins with. -/
structure Sought (name : String) : Prop where
  noMark : name.toList.any isQuoteMark = false
  head : name.toList.head? ∉ "<img ".toList.map some
  ne_nil : name.toList ≠ []

theorem Sought.head_key (h : Sought name) : ∀ c ∈ "<img ".toList, (keyOf name).head? ≠ some c := by
  intro c hc hhead
  rw [keyOf, List.head?_append_of_ne_nil _ h.ne_nil] at hhead
  exact h.head (hhead ▸ List.mem_map_of_mem hc)

theorem Sought.noMark_key (h : Sought name) : ∀ c ∈ keyOf name, isQuoteMark c = false := by
  rw [keyOf, List.forall_mem_append]
  exact ⟨noQuoteMark h.noMark, noQuoteMark (by decide)⟩

theorem keyOf_ne_nil : keyOf name ≠ [] := by simp [keyOf]

/-- The attribute has nothing in it that looks like one of this name: its own name does not end in
it, and its value neither ends in the key nor has it in front of an apostrophe. -/
def Unlike (f : Char → List Char) (name : String) (a : String × String) : Prop :=
  ∀ m ∈ ['"', '\''], ¬(keyOf name ++ [m]) <:+: attrBy f a

instance (f : Char → List Char) (name : String) : DecidablePred (Unlike f name) := fun a =>
  List.decidableBAll (fun m => ¬(keyOf name ++ [m]) <:+: attrBy f a) ['"', '\'']

theorem valueBehind?_attr (hname : Sought name) {a : String × String} (ha : Unlike f name a) :
    valueBehind? (keyOf name) (' ' :: (attrBy f a ++ rest)) = valueBehind? (keyOf name) rest := by
  have hattr (t : List Char) :
      attrBy f a ++ t = (a.1.toList ++ '=' :: '"' :: a.2.toList.flatMap f) ++ '"' :: t := by
    simp [attrBy]
  have hmarks (m : Char) (hm : isQuoteMark m = true) : m ∈ ['"', '\''] := by
    simpa [isQuoteMark] using hm
  have hnone (m : Char) (hm : isQuoteMark m = true) := ha m (hmarks m hm)
  rw [← List.append_nil (attrBy f a)] at hnone
  simp only [hattr] at hnone ⊢
  rw [valueBehind?_skip keyOf_ne_nil (hname.head_key ' ' (by decide))]
  exact valueBehind?_pass hname.noMark_key keyOf_ne_nil rfl hnone

theorem valueBehind?_attrs (hname : Sought name) (hattrs : ∀ a ∈ attrs, Unlike f name a) :
    valueBehind? (keyOf name) (attrsBy f attrs ++ rest) = valueBehind? (keyOf name) rest := by
  induction attrs with
  | nil => rfl
  | cons a r ih =>
      rw [List.forall_mem_cons] at hattrs
      have hcut : attrsBy f (a :: r) ++ rest = ' ' :: (attrBy f a ++ (attrsBy f r ++ rest)) := by
        simp [attrsBy]
      rw [hcut, valueBehind?_attr hname hattrs.1, ih hattrs.2]

theorem valueBehind?_tag (hname : Sought name) :
    valueBehind? (keyOf name) (tagBy f "img" attrs) =
      valueBehind? (keyOf name) (attrsBy f attrs ++ ['>']) := by
  have hskip (c : Char) (hc : c ∈ "<img ".toList) (cs : List Char) :
      valueBehind? (keyOf name) (c :: cs) = valueBehind? (keyOf name) cs :=
    valueBehind?_skip keyOf_ne_nil (hname.head_key c hc)
  have htag : tagBy f "img" attrs = '<' :: 'i' :: 'm' :: 'g' :: (attrsBy f attrs ++ ['>']) := rfl
  rw [htag, hskip _ (by decide), hskip _ (by decide), hskip _ (by decide), hskip _ (by decide)]

/-- Nothing in front of the attribute of this name looks like it; without such an attribute, nothing
at all does. -/
def Apart (f : Char → List Char) (name : String) (attrs : List (String × String)) : Prop :=
  ∀ a ∈ attrs.takeWhile fun a => a.1 != name, Unlike f name a

instance (f : Char → List Char) (name : String) : DecidablePred (Apart f name) := fun attrs =>
  List.decidableBAll (Unlike f name) (attrs.takeWhile fun a => a.1 != name)

theorem takeWhile_of_lookup_eq_none (h : attrs.lookup name = none) :
    attrs.takeWhile (fun a => a.1 != name) = attrs := by
  refine List.takeWhile_eq_self_iff.mpr fun a ha => ?_
  have hne := List.lookup_eq_none_iff.mp h a ha
  rw [bne_iff_ne]
  exact fun heq => by simp [heq] at hne

/-- An attribute that is there has those of other names in front of it. -/
theorem exists_of_lookup_eq_some {value : String} (h : attrs.lookup name = some value) :
    ∃ back, attrs = attrs.takeWhile (fun a => a.1 != name) ++ (name, value) :: back := by
  induction attrs with
  | nil => cases h
  | cons a r ih =>
      obtain ⟨n, v⟩ := a
      by_cases hn : n = name
      · subst hn
        rw [List.lookup_cons_self] at h
        cases h
        exact ⟨r, by simp⟩
      · have hother : (name == n) = false := beq_eq_false_iff_ne.mpr (Ne.symm hn)
        rw [List.lookup_cons, hother] at h
        obtain ⟨back, hback⟩ := ih h
        refine ⟨back, ?_⟩
        rw [List.takeWhile_cons_of_pos (by simpa using hn), List.cons_append, ← hback]

/-- Where nothing looks like it, an attribute that is not there is not found, -/
theorem valueBehind?_absent (hname : Sought name) (hapart : Apart f name attrs)
    (hnone : attrs.lookup name = none) :
    valueBehind? (keyOf name) (tagBy f "img" attrs) = none := by
  rw [Apart, takeWhile_of_lookup_eq_none hnone] at hapart
  rw [valueBehind?_tag hname, valueBehind?_attrs hname hapart]
  exact valueBehind?_of_noQuoteMark (noQuoteMark (by decide))

/-- and of one that is there the value is found as it is written, if it has no quote mark in it. -/
theorem valueBehind?_present (hname : Sought name) (hapart : Apart f name attrs) {value : String}
    (hvalue : attrs.lookup name = some value) (hne : value.toList.flatMap f ≠ [])
    (hmarks : ∀ c ∈ value.toList.flatMap f, isQuoteMark c = false) :
    valueBehind? (keyOf name) (tagBy f "img" attrs) = some (value.toList.flatMap f) := by
  obtain ⟨back, hback⟩ := exists_of_lookup_eq_some hvalue
  have hcut : attrsBy f attrs ++ ['>'] =
      attrsBy f (attrs.takeWhile fun a => a.1 != name) ++ ' ' :: (keyOf name ++
        '"' :: (value.toList.flatMap f ++ '"' :: (attrsBy f back ++ ['>']))) := by
    rw [congrArg (attrsBy f) hback]
    simp [attrsBy, attrBy, keyOf]
  rw [valueBehind?_tag hname, hcut, valueBehind?_attrs hname hapart,
    valueBehind?_skip keyOf_ne_nil (hname.head_key ' ' (by decide)),
    valueBehind?_append hname.noMark_key hname.noMark_key rfl keyOf_ne_nil,
    if_pos List.suffix_rfl, quoted?_quoted rfl hne hmarks]
  rfl

/-! ## Addresses that are written as they are -/

/-- The text is written as it is, and has no quote mark in it. -/
def Verbatim (f : Char → List Char) (s : String) : Prop :=
  s.toList.flatMap f = s.toList ∧ ∀ c ∈ s.toList, isQuoteMark c = false

theorem noQuoteMark_flatMap (hf : Escaping f) (h : ∀ c ∈ cs, isQuoteMark c = false) :
    ∀ c ∈ cs.flatMap f, isQuoteMark c = false := by
  intro d hd
  obtain ⟨c, hc, hd⟩ := List.mem_flatMap.mp hd
  rcases hf c with ⟨heq, -⟩ | ⟨ref, heq, hquotes, -⟩
  · rw [heq, List.mem_singleton] at hd
    rw [hd]
    exact h c hc
  · rw [heq, List.mem_cons] at hd
    rcases hd with rfl | hd
    · rfl
    · have hquote := ne_of_mem_of_not_mem hd hquotes.1
      have hapostrophe := ne_of_mem_of_not_mem hd hquotes.2
      simp [isQuoteMark, hquote, hapostrophe]

/-- What is written begins as the text does, or with a reference. -/
theorem head?_flatMap (hf : Escaping f) (c : Char) (r : List Char) :
    ((c :: r).flatMap f).head? = some c ∨ ((c :: r).flatMap f).head? = some '&' := by
  rw [List.flatMap_cons]
  rcases hf c with ⟨heq, -⟩ | ⟨ref, heq, -⟩
  · exact .inl (by rw [heq]; rfl)
  · exact .inr (by rw [heq]; rfl)

/-- **Completing an address does not make up for the way it is written.** -/
theorem completeUrl_flatMap_iff (hf : Escaping f) (url : String) :
    completeUrl (String.ofList (url.toList.flatMap f)) = completeUrl url ↔
      url.toList.flatMap f = url.toList := by
  have hlength := length_le_flatMap hf.ne_nil url.toList
  have hwritten : (String.ofList (url.toList.flatMap f)).toList = url.toList.flatMap f :=
    String.toList_ofList
  rw [← String.toList_inj, toList_completeUrl, toList_completeUrl, hwritten]
  refine ⟨fun h => ?_, fun h => by rw [h]⟩
  by_cases hraw : "//".toList <+: url.toList.flatMap f <;>
    by_cases hurl : "//".toList <+: url.toList
  · rw [if_pos hraw, if_pos hurl] at h
    exact List.append_cancel_left h
  · -- what is written would be longer
    rw [if_pos hraw, if_neg hurl, List.nil_append] at h
    have hlonger := congrArg List.length h
    rw [List.length_append] at hlonger
    have hscheme : "https:".toList.length = 6 := rfl
    omega
  · -- what is written would begin with the scheme
    rw [if_neg hraw, if_pos hurl, List.nil_append] at h
    obtain ⟨r, hr⟩ := hurl
    have hhead := head?_flatMap hf '/' ('/' :: r)
    have hslashes : '/' :: '/' :: r = url.toList := hr
    have hscheme : ("https:".toList ++ url.toList).head? = some 'h' := rfl
    rw [hslashes, h, hscheme] at hhead
    exact absurd hhead (by decide)
  · rwa [if_neg hraw, if_neg hurl] at h

/-! ## Icons -/

/-- Attributes such as an element can have: distinct names, which are read as they are written. -/
structure Named (attrs : List (String × String)) : Prop where
  plain : ∀ a ∈ attrs, Plain endsAttrName a.1
  distinct : (attrs.map (·.1)).Nodup

/-- An image's attribute that holds no words is read as the text it is. -/
theorem attr?_ofTag {a : String} (hattrs : Named attrs) (ha : wordAttrs.contains a = false) :
    (Element.ofTag "img" attrs).attr? a = (attrs.lookup a).map .text := by
  let read (b : String × String) : String × AttrValue := (b.1, readValue "img" b.1 b.2)
  have htext (v : String) : readValue "img" a v = .text v := by
    have hother : (wordAttrsOf "img").contains a = false := rfl
    rw [readValue, ha, hother, Bool.or_self, if_neg Bool.false_ne_true]
  have hlookup : (attrs.map read).lookup a = (attrs.lookup a).map .text := by
    induction attrs with
    | nil => rfl
    | cons b r ih =>
        have hr := ih ⟨fun c hc => hattrs.plain c (List.mem_cons_of_mem b hc),
          (List.nodup_cons.mp hattrs.distinct).2⟩
        rw [List.map_cons, List.lookup_cons, List.lookup_cons]
        cases hb : a == b.1 with
        | true =>
            rw [Option.map_some, ← htext, eq_of_beq hb]
        | false => exact hr
  have hkeys : ((attrs.map read).map (·.1)).Nodup := by
    rw [List.map_map]
    exact hattrs.distinct
  have hput : Pairs.putAll [] (attrs.map read) = attrs.map read := Pairs.putAll_of_nodup hkeys
  have hread : (Element.ofTag "img" attrs).attrs = Pairs.putAll [] (attrs.map read) := by
    rw [Pairs.putAll, List.foldl_map]
    rfl
  rw [Element.attr?, hread, hput, hlookup]

/-- An icon: the tag of an image with these attributes. -/
def iconBy (f : Char → List Char) (attrs : List (String × String)) : String :=
  String.ofList (tagBy f "img" attrs)

theorem read_iconBy (hf : Escaping f) (hattrs : Named attrs) (hne : attrs ≠ []) :
    Markup.read 0 (iconBy f attrs) =
      (.element 0 ⟨rootName, []⟩ [.element 1 (Element.ofTag "img" attrs) []], 2) := by
  obtain ⟨a, r, rfl⟩ := List.exists_cons_of_ne_nil hne
  have hname : Plain endsTagName "img" := ⟨by decide, by decide, by decide +kernel⟩
  have hvoid : voidNames.contains "img" = true := by decide
  rw [Markup.read, iconBy, String.toList_ofList,
    pieces_tagBy hf hname (by decide) (by decide) hattrs.plain, List.foldl_cons, List.foldl_nil,
    Build.take, hvoid]
  rfl

theorem sought_src : Sought "src" := ⟨by decide, by decide, by decide⟩

theorem sought_origin : Sought "origin" := ⟨by decide, by decide, by decide⟩

/-- What is found of an attribute that is there and has no quote mark in its value. -/
theorem found?_iconBy (hf : Escaping f) (hname : Sought name) (hapart : Apart f name attrs)
    {value : String} (hvalue : attrs.lookup name = some value) (hne : value ≠ "")
    (hmarks : ∀ c ∈ value.toList, isQuoteMark c = false) :
    found? (iconBy f attrs) name = some (String.ofList (value.toList.flatMap f)) := by
  have hsome : value.toList.flatMap f ≠ [] := by
    obtain ⟨c, r, hc⟩ := List.exists_cons_of_ne_nil (l := value.toList) (by simpa using hne)
    rw [hc, List.flatMap_cons]
    exact List.append_ne_nil_of_left_ne_nil (hf.ne_nil c) _
  rw [found?, iconBy, String.toList_ofList,
    valueBehind?_present hname hapart hvalue hsome (noQuoteMark_flatMap hf hmarks), Option.map_some]

section

variable {src : String} (hf : Escaping f) (hsrc : attrs.lookup "src" = some src) (hne : src ≠ "")
  (horigin : ∀ origin ∈ attrs.lookup "origin", origin ≠ "") (hapart : Apart f "src" attrs)
  (hapart' : Apart f "origin" attrs)

include hf hsrc hne horigin hapart hapart'

/-- What is found has no quote mark, so what the reader sees has none either if the two agree. -/
theorem verbatim_of_addresses_eq (h : addresses (iconBy f attrs) =
    (completeUrl ((attrs.lookup "origin").getD src), completeUrl src)) :
    Verbatim f src ∧ ∀ origin ∈ attrs.lookup "origin", Verbatim f origin := by
  obtain ⟨horiginal, hpreview⟩ := addresses_noQuoteMark (iconBy f attrs)
  rw [h] at horiginal hpreview
  have hsrcMarks := noQuoteMark_completeUrl_iff.mp hpreview
  have hsource := found?_iconBy hf sought_src hapart hsrc hne hsrcMarks
  rw [addresses_eq, Prod.mk.injEq, hsource, Option.getD_some, Option.getD_some] at h
  refine ⟨⟨(completeUrl_flatMap_iff hf src).mp h.2, hsrcMarks⟩, fun origin ho => ?_⟩
  have hvalue : attrs.lookup "origin" = some origin := ho
  rw [hvalue, Option.getD_some] at h horiginal
  have hmarks := noQuoteMark_completeUrl_iff.mp horiginal
  rw [found?_iconBy hf sought_origin hapart' hvalue (horigin origin ho) hmarks,
    Option.getD_some] at h
  exact ⟨(completeUrl_flatMap_iff hf origin).mp h.1, hmarks⟩

theorem addresses_eq_of_verbatim (hverbatim : Verbatim f src)
    (horigins : ∀ origin ∈ attrs.lookup "origin", Verbatim f origin) :
    addresses (iconBy f attrs) =
      (completeUrl ((attrs.lookup "origin").getD src), completeUrl src) := by
  have hsource := found?_iconBy hf sought_src hapart hsrc hne hverbatim.2
  rw [hverbatim.1, String.ofList_toList] at hsource
  rw [addresses_eq, hsource, Option.getD_some, Option.getD_some]
  cases ho : attrs.lookup "origin" with
  | none =>
      rw [found?, iconBy, String.toList_ofList, valueBehind?_absent sought_origin hapart' ho]
      rfl
  | some origin =>
      have hv := horigins origin ho
      rw [found?_iconBy hf sought_origin hapart' ho (horigin origin ho) hv.2, hv.1,
        String.ofList_toList]

end

/-- **An icon is read as markup exactly if its addresses are written as they are.** A reader of
markup sees one image. If nothing in front of its address and of its original looks like them, then
the addresses that are found are those that the reader sees, completed, exactly if neither has a
reference or a quote mark in it as it is written. -/
theorem addresses_iconBy_iff (hf : Escaping f) (hattrs : Named attrs) {src : String}
    (hsrc : attrs.lookup "src" = some src) (hne : src ≠ "")
    (horigin : ∀ origin ∈ attrs.lookup "origin", origin ≠ "") (hapart : Apart f "src" attrs)
    (hapart' : Apart f "origin" attrs) :
    let e := Element.ofTag "img" attrs
    Markup.read 0 (iconBy f attrs) = (.element 0 ⟨rootName, []⟩ [.element 1 e []], 2) ∧
      e.attr? "src" = some (.text src) ∧
      e.attr? "origin" = (attrs.lookup "origin").map .text ∧
      (addresses (iconBy f attrs) =
          (completeUrl ((attrs.lookup "origin").getD src), completeUrl src) ↔
        Verbatim f src ∧ ∀ origin ∈ attrs.lookup "origin", Verbatim f origin) := by
  have hsome : attrs ≠ [] := by
    rintro rfl
    cases hsrc
  refine ⟨read_iconBy hf hattrs hsome, ?_, attr?_ofTag hattrs (by decide), ?_⟩
  · rw [attr?_ofTag hattrs (by decide), hsrc, Option.map_some]
  · exact ⟨verbatim_of_addresses_eq hf hsrc hne horigin hapart hapart', fun h =>
      addresses_eq_of_verbatim hf hsrc hne horigin hapart hapart' h.1 h.2⟩

/-- That attributes can be an element's is seen from their names. -/
theorem named_of_names {names : List String} (hnames : attrs.map (·.1) = names)
    (hplain : ∀ name ∈ names, name.toList ≠ [] ∧ name.toList.any endsAttrName = false ∧
      Text.small name.toList = name.toList) (hdistinct : names.Nodup) : Named attrs where
  plain a ha := by
    obtain ⟨hne, hstays, hsmall⟩ := hplain a.1 (hnames ▸ List.mem_map_of_mem ha)
    exact ⟨hne, hstays, hsmall⟩
  distinct := hnames ▸ hdistinct

/-- An icon with an address in its text, and one that leaves the scheme open. -/
def labelledIcon : List (String × String) :=
  [("alt", "a < b & 'src='"), ("src", "//cdn/a.png"), ("origin", "/o.png?src=1"), ("width", "9")]

theorem addresses_iconBy_iff_labelledIcon :
    Escaping escapeChar ∧ Named labelledIcon ∧ labelledIcon.lookup "src" = some "//cdn/a.png" ∧
      "//cdn/a.png" ≠ "" ∧ (∀ origin ∈ labelledIcon.lookup "origin", origin ≠ "") ∧
      Apart escapeChar "src" labelledIcon ∧ Apart escapeChar "origin" labelledIcon ∧
      addresses (iconBy escapeChar labelledIcon) = ("/o.png?src=1", "https://cdn/a.png") := by
  have hnamed : Named labelledIcon := named_of_names rfl (by decide +kernel) (by decide)
  have hsrc : labelledIcon.lookup "src" = some "//cdn/a.png" := by decide
  have hne : "//cdn/a.png" ≠ "" := by decide
  have horigin : ∀ origin ∈ labelledIcon.lookup "origin", origin ≠ "" := by decide
  have hapart : Apart escapeChar "src" labelledIcon := by decide +kernel
  have hapart' : Apart escapeChar "origin" labelledIcon := by decide +kernel
  refine ⟨escapeChar_cases, hnamed, hsrc, hne, horigin, hapart, hapart', ?_⟩
  have hiff := (addresses_iconBy_iff escapeChar_cases hnamed hsrc hne horigin hapart hapart').2.2.2
  have haddress : Verbatim escapeChar "//cdn/a.png" := ⟨by decide +kernel, noQuoteMark (by decide)⟩
  have horiginal : ∀ origin ∈ labelledIcon.lookup "origin", Verbatim escapeChar origin := by
    intro origin ho
    cases ho
    exact ⟨by decide +kernel, noQuoteMark (by decide)⟩
  rw [hiff.mpr ⟨haddress, horiginal⟩]
  decide +kernel

/-- An attribute with a longer name is taken for the address, and an ampersand is found as it is
written. -/
theorem not_addresses_iconBy :
    (¬∀ (attrs : List (String × String)) (src : String), Named attrs →
      attrs.lookup "src" = some src → src ≠ "" → Verbatim escapeChar src →
      (addresses (iconBy escapeChar attrs)).2 = completeUrl src) ∧
    ¬∀ (attrs : List (String × String)) (src : String), Named attrs →
      attrs.lookup "src" = some src → src ≠ "" → Apart escapeChar "src" attrs →
      (addresses (iconBy escapeChar attrs)).2 = completeUrl src := by
  refine ⟨fun h => ?_, fun h => ?_⟩
  · have hnamed : Named [("data-src", "/lazy.png"), ("src", "/a.png")] :=
      named_of_names rfl (by decide +kernel) (by decide)
    have hverbatim : Verbatim escapeChar "/a.png" := ⟨by decide +kernel, noQuoteMark (by decide)⟩
    exact absurd (h _ "/a.png" hnamed (by decide) (by decide) hverbatim) (by decide +kernel)
  · have hnamed : Named [("src", "/a?x=1&y=2")] :=
      named_of_names rfl (by decide +kernel) (by decide)
    have hapart : Apart escapeChar "src" [("src", "/a?x=1&y=2")] := by decide +kernel
    exact absurd (h _ "/a?x=1&y=2" hnamed (by decide) (by decide) hapart) (by decide +kernel)

end StickerPages.Catalog
