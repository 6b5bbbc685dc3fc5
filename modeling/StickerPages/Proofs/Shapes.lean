import StickerPages.Proofs.Catalogs

/-!
# One group, written in two ways

A group of pictures can be written flat, names with their addresses, or typed, items with icons. An
icon is markup, and the address is looked for in it behind `src=` and `origin=`. In the plainest
icon, with nothing but the address in it, it is found whatever it looks like, if there is no quote
mark in it: a key that ends an address does not count, because no quoted text stands behind it
(`addresses_iconOf`).

The two ways come to the same group, but for one kind of address. An address that leaves its scheme
open is completed where it comes from an icon, and taken as it stands where it is written flat
(`ofValue_shapes`).
-/

namespace StickerPages.Catalog

/-! ## Addresses in icons -/

section

variable {key cs rest : List Char} {q : Char}

theorem quoted?_of_head (h : ∀ c ∈ cs.head?, isQuoteMark c = false) : quoted? cs = none := by
  cases cs with
  | nil => rfl
  | cons c r =>
      rw [quoted?, if_neg]
      simp [h c rfl]

theorem quoted?_quoted (hq : isQuoteMark q = true) (hne : cs ≠ [])
    (hcs : ∀ c ∈ cs, isQuoteMark c = false) : quoted? (q :: (cs ++ q :: rest)) = some cs := by
  have htake : ((cs ++ q :: rest).takeWhile fun c => !isQuoteMark c) = cs := by
    rw [List.takeWhile_append_of_pos fun c hc => by simp [hcs c hc]]
    simp [hq]
  rw [quoted?, if_pos hq, htake]
  simp [hne]

theorem of_quoted?_eq_some {v : List Char} (h : quoted? cs = some v) :
    v ≠ [] ∧ ∀ c ∈ v, isQuoteMark c = false := by
  cases cs with
  | nil => cases h
  | cons c r =>
      rw [quoted?] at h
      split at h
      · dsimp only at h
        split at h
        · cases h
        · next hfull =>
          cases h
          rw [Bool.or_eq_true, not_or, List.isEmpty_iff] at hfull
          exact ⟨hfull.1, fun d hd => by simpa using List.mem_takeWhile_imp hd⟩
      · cases h

/-- A value that is found is not empty, and no quote mark is in it. -/
theorem of_valueBehind?_eq_some {v : List Char} (h : valueBehind? key cs = some v) :
    v ≠ [] ∧ ∀ c ∈ v, isQuoteMark c = false := by
  induction cs with
  | nil => cases h
  | cons c r ih =>
      rw [valueBehind?] at h
      split at h
      · split at h
        · next hquoted =>
          cases h
          exact of_quoted?_eq_some hquoted
        · exact ih h
      · exact ih h

theorem noQuoteMark (h : cs.any isQuoteMark = false) : ∀ c ∈ cs, isQuoteMark c = false :=
  fun c hc => Bool.eq_false_iff.mpr (List.any_eq_false.mp h c hc)

/-- A key in a text is a key in front of the first quote mark. -/
theorem isPrefixOf_append_quote (hkey : ∀ c ∈ key, isQuoteMark c = false)
    (hq : isQuoteMark q = true) :
    key.isPrefixOf (cs ++ q :: rest) = true ↔ key <+: cs := by
  rw [List.isPrefixOf_iff_prefix]
  refine ⟨fun h => ?_, fun h => h.trans (List.prefix_append _ _)⟩
  rcases List.prefix_or_prefix_of_prefix h (List.prefix_append cs (q :: rest)) with h' | ⟨t, rfl⟩
  · exact h'
  · cases t with
    | nil => simp
    | cons c t =>
        obtain ⟨rfl, -⟩ := List.cons_prefix_cons.mp ((List.prefix_append_right_inj cs).mp h)
        have hc := hkey c (by simp)
        rw [hq] at hc
        cases hc

theorem suffix_cons_iff_of_ne {l : List Char} (h : key ≠ c :: l) :
    key <:+ c :: l ↔ key <:+ l := by
  rw [List.suffix_cons_iff]
  exact or_iff_right h

/-- In front of the first quote mark only a key at the end counts. -/
theorem valueBehind?_append (hkey : ∀ c ∈ key, isQuoteMark c = false)
    (hcs : ∀ c ∈ cs, isQuoteMark c = false) (hq : isQuoteMark q = true) (hne : key ≠ []) :
    valueBehind? key (cs ++ q :: rest) =
      (if key <:+ cs then quoted? (q :: rest) else none).or (valueBehind? key rest) := by
  induction cs with
  | nil =>
      have hnot : key.isPrefixOf (q :: rest) ≠ true := by
        rw [← List.nil_append (q :: rest), Ne, isPrefixOf_append_quote hkey hq]
        simpa using hne
      rw [List.nil_append, valueBehind?, if_neg hnot, if_neg (by simpa using hne), Option.none_or]
  | cons c r ih =>
      rw [List.forall_mem_cons] at hcs
      have hr := ih hcs.2
      rw [List.cons_append, valueBehind?, ← List.cons_append, hr]
      by_cases hprefix : key <+: c :: r
      · rw [if_pos ((isPrefixOf_append_quote hkey hq).mpr hprefix)]
        obtain ⟨t, ht⟩ := hprefix
        cases t with
        | nil =>
            -- the key ends in front of the quote mark, and has no room in what is left
            rw [List.append_nil] at ht
            subst ht
            have hlong : ¬c :: r <:+ r := fun h => absurd h.length_le (by simp)
            rw [List.drop_left, if_pos List.suffix_rfl, if_neg hlong, Option.none_or]
            cases quoted? (q :: rest) <;> rfl
        | cons d t =>
            -- something else than a quote mark follows the key
            have hd : isQuoteMark d = false := by
              have hmem : d ∈ c :: r := by
                rw [← ht]
                simp
              exact (List.forall_mem_cons (p := fun x => isQuoteMark x = false)).mpr hcs d hmem
            have hsuffix : key <:+ c :: r ↔ key <:+ r := suffix_cons_iff_of_ne fun h => by
              rw [h] at ht
              simp at ht
            have hnone : quoted? (d :: t ++ q :: rest) = none := quoted?_of_head (by simpa using hd)
            rw [← ht, List.append_assoc, List.drop_left, hnone, ht]
            simp only [hsuffix]
      · have hsuffix : key <:+ c :: r ↔ key <:+ r :=
          suffix_cons_iff_of_ne fun h => hprefix (h ▸ List.prefix_rfl)
        rw [if_neg fun h => hprefix ((isPrefixOf_append_quote hkey hq).mp h)]
        simp only [hsuffix]

/-- Nothing is quoted where there is no quote mark. -/
theorem valueBehind?_of_noQuoteMark (hcs : ∀ c ∈ cs, isQuoteMark c = false) :
    valueBehind? key cs = none := by
  induction cs with
  | nil => rfl
  | cons c r ih =>
      have hnone : quoted? ((c :: r).drop key.length) = none :=
        quoted?_of_head fun d hd => hcs d (List.mem_of_mem_drop (List.mem_of_mem_head? hd))
      rw [valueBehind?, hnone, ih fun d hd => hcs d (List.mem_cons_of_mem _ hd)]
      simp

end

/-- An icon with nothing but an address in it. -/
def iconOf (url : String) : String := "<img src=\"" ++ url ++ "\">"

theorem toList_iconOf (url : String) :
    (iconOf url).toList = "<img src=".toList ++ '"' :: (url.toList ++ '"' :: ['>']) := by
  simp [iconOf]

/-- An address without quote marks is found in its icon, and nothing else is. -/
theorem addresses_iconOf {url : String} (hne : url ≠ "")
    (hquote : ∀ c ∈ url.toList, isQuoteMark c = false) :
    addresses (iconOf url) = (completeUrl url, completeUrl url) := by
  have hmark : isQuoteMark '"' = true := rfl
  have hfront : ∀ c ∈ "<img src=".toList, isQuoteMark c = false := noQuoteMark (by decide)
  have hurl : url.toList ≠ [] := by simpa using hne
  -- behind the source's key stands the address
  have hsource : valueBehind? "src=".toList (iconOf url).toList = some url.toList := by
    rw [toList_iconOf, valueBehind?_append (noQuoteMark (by decide)) hfront hmark (by decide),
      if_pos (by decide), quoted?_quoted hmark hurl hquote]
    rfl
  -- the original's key may end the address, but then nothing is quoted behind it
  have horiginal : valueBehind? "origin=".toList (iconOf url).toList = none := by
    have hend : quoted? ['"', '>'] = none := rfl
    rw [toList_iconOf, valueBehind?_append (noQuoteMark (by decide)) hfront hmark (by decide),
      if_neg (by decide), Option.none_or,
      valueBehind?_append (noQuoteMark (by decide)) hquote hmark (by decide), hend, ite_self,
      Option.none_or]
    exact valueBehind?_of_noQuoteMark (noQuoteMark (by decide))
  unfold addresses
  simp only [hsource, horiginal, Option.map_some, Option.map_none, Option.getD_some,
    Option.getD_none, String.ofList_toList]

/-! ## Addresses that leave the scheme open -/

/-- Completing an address changes no character of it. -/
theorem toList_completeUrl (url : String) :
    (completeUrl url).toList =
      (if "//".toList <+: url.toList then "https:".toList else []) ++ url.toList := by
  rw [completeUrl]
  by_cases h : url.startsWith "//" = true
  · rw [if_pos h, if_pos (String.startsWith_string_iff.mp h), String.toList_append]
  · rw [if_neg h, if_neg (mt String.startsWith_string_iff.mpr h), List.nil_append]

theorem completeUrl_eq_self_iff {url : String} :
    completeUrl url = url ↔ ¬"//".toList <+: url.toList := by
  rw [← String.toList_inj, toList_completeUrl, List.append_left_eq_self]
  split
  · next h => exact iff_of_false (by decide) (not_not.mpr h)
  · next h => exact iff_of_true rfl h

/-- A complete address is an address. -/
theorem Addresses.complete {url : String} (h : Addresses url) : Addresses (completeUrl url) := by
  rw [completeUrl]
  split
  · exact .inl ⟨"s:".toList ++ url.toList, by simp⟩
  · exact h

theorem Addresses.ne_empty {url : String} (h : Addresses url) : url ≠ "" := by
  rintro rfl
  rcases h with h | h
  · exact absurd h (by decide)
  · exact absurd h (by decide)

/-! ## Two ways to write a group -/

section

variable {group name url : String}

/-- A catalog with one group of one picture, written flat. -/
def flatCatalog (group name url : String) : Value :=
  .map [(.text group, .map [(.text name, .text url)])]

/-- The same catalog, written with a typed group. -/
def typedCatalog (group name url : String) : Value :=
  .map [(.text group, .map [(.text "type", .text "image"),
    (.text "container",
      .list [.map [(.text "icon", .text (iconOf url)), (.text "text", .text name)]])])]

/-- A group of one picture. -/
def groupWith (group name url : String) : Group where
  name := group
  tag := tagOf group
  stickers := [{ name, preview := url, original := url, alt := name,
                 shortcode := shortcodeOf (tagOf group) name }]

theorem groupWith_inj {url' : String} :
    groupWith group name url = groupWith group name url' ↔ url = url' := by
  constructor
  · intro h
    simpa [groupWith] using h
  · rintro rfl
    rfl

theorem shortcodeMap_groupWith (hne : url ≠ "") :
    shortcodeMap [groupWith group name url] = [(shortcodeOf (tagOf group) name, url)] := by
  have hcode : shortcodeOf (tagOf group) name ≠ "" := by simp [shortcodeOf]
  simp [shortcodeMap, callable, groupWith, Sticker.isImage, hne, hcode, Pairs.putAll, Pairs.put]

/-- A catalog of one entry has one group. -/
theorem ofValue_single {v : Value} {ss : List Sticker} (h : GroupStickers (tagOf group) v ss) :
    ofValue (.map [(.text group, v)]) =
      .ok [{ name := group, tag := tagOf group, stickers := ss }] := by
  have hgroup : EntryGroup (.text group, v) { name := group, tag := tagOf group, stickers := ss } :=
    entryGroup_iff.mpr ⟨ss, h, rfl⟩
  exact ((catalogGroups_answers _).ok _).mpr (.map (.cons hgroup .nil))

theorem at?_single {v : Value} {key : String} (h : name ≠ key) :
    Entries.at? [(.text name, v)] key = none := by
  have hkey : (Scalar.text key == .text name) = false :=
    show (key == name) = false from beq_eq_false_iff_ne.mpr h.symm
  rw [Entries.at?, List.lookup_cons, hkey]
  rfl

/-- The one entry of a flat group cannot name a type and a container at once. -/
theorem ofValue_flatCatalog (h : Addresses url) :
    ofValue (flatCatalog group name url) = .ok [groupWith group name url] := by
  have hkeys : Entries.at? [(.text name, .text url)] "type" = none ∨
      Entries.at? [(.text name, .text url)] "container" = none := by
    by_cases hname : name = "type"
    · exact .inr (at?_single (by rw [hname]; decide))
    · exact .inl (at?_single hname)
  exact ofValue_single (.flat hkeys (.cons (.picture h) .nil))

theorem ofValue_typedCatalog (h : Addresses url)
    (hquote : ∀ c ∈ url.toList, isQuoteMark c = false) :
    ofValue (typedCatalog group name url) = .ok [groupWith group name (completeUrl url)] := by
  let item : Entries := [(.text "icon", .text (iconOf url)), (.text "text", .text name)]
  have hicon : Entries.at? item "icon" = some (.text (iconOf url)) := rfl
  have htext : Entries.at? item "text" = some (.text name) := rfl
  have hitem : ItemSticker (tagOf group) (.text "image") (.map item) _ := .picture rfl hicon htext
  rw [addresses_iconOf h.ne_empty hquote] at hitem
  exact ofValue_single (.typed rfl rfl (.cons hitem .nil))

end

/-- **A group of pictures is the same, however it is written, unless its address leaves the scheme
open.** Written flat it is taken as it stands, in an icon it is completed, and so the typed group is
the flat group of the complete address. -/
theorem ofValue_shapes {url : String} (h : Addresses url)
    (hquote : ∀ c ∈ url.toList, isQuoteMark c = false) (group name : String) :
    ∃ flat typed, ofValue (flatCatalog group name url) = .ok flat ∧
      ofValue (typedCatalog group name url) = .ok typed ∧
      ofValue (flatCatalog group name (completeUrl url)) = .ok typed ∧
      (typed = flat ↔ ¬"//".toList <+: url.toList) ∧
      (shortcodeMap typed = shortcodeMap flat ↔ ¬"//".toList <+: url.toList) := by
  refine ⟨_, _, ofValue_flatCatalog h, ofValue_typedCatalog h hquote,
    ofValue_flatCatalog h.complete, ?_, ?_⟩
  · rw [List.singleton_inj, groupWith_inj, completeUrl_eq_self_iff]
  · rw [shortcodeMap_groupWith h.ne_empty, shortcodeMap_groupWith h.complete.ne_empty,
      List.singleton_inj, Prod.mk.injEq, eq_self, true_and, completeUrl_eq_self_iff]

/-- An address that ends in a key. -/
theorem ofValue_shapes_keyAddress :
    Addresses "/a b.png?src=&origin=" ∧
      (∀ c ∈ "/a b.png?src=&origin=".toList, isQuoteMark c = false) ∧
      ofValue (typedCatalog "my pack" "type" "/a b.png?src=&origin=") =
        ofValue (flatCatalog "my pack" "type" "/a b.png?src=&origin=") := by
  have h : Addresses "/a b.png?src=&origin=" := .inr (by decide)
  have hquote : ∀ c ∈ "/a b.png?src=&origin=".toList, isQuoteMark c = false :=
    noQuoteMark (by decide)
  obtain ⟨flat, typed, hflat, htyped, -, hsame, -⟩ := ofValue_shapes h hquote "my pack" "type"
  refine ⟨h, hquote, ?_⟩
  rw [htyped, hflat, hsame.mpr (by decide)]

/-- An address without a scheme makes a difference. -/
theorem ofValue_shapes_differ :
    ¬∀ group name url : String, Addresses url → (∀ c ∈ url.toList, isQuoteMark c = false) →
      ofValue (typedCatalog group name url) = ofValue (flatCatalog group name url) := by
  intro h
  have haddress : Addresses "//cdn/a.png" := .inr (by decide)
  have hquote : ∀ c ∈ "//cdn/a.png".toList, isQuoteMark c = false := noQuoteMark (by decide)
  have hsame := h "g" "hi" "//cdn/a.png" haddress hquote
  rw [ofValue_typedCatalog haddress hquote, ofValue_flatCatalog haddress, Except.ok.injEq,
    List.singleton_inj, groupWith_inj, completeUrl_eq_self_iff] at hsame
  exact absurd (by decide) hsame

end StickerPages.Catalog
