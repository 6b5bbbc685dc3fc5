import Mathlib.Data.List.TakeWhile
import StickerPages.Catalog.Reader
import StickerPages.Proofs.Answers

/-!
# What a catalog holds

Which data is a catalog, what stickers are in it, and what is wrong with data that is none: each is
said by a relation between the data and the answer, one for every level from the catalog down to the
item. The relations know nothing of reading. That the reader follows them is shown level by level,
from the item up, and at each level the two ways to write a group are told apart by the same two
keys.

The reader takes all or nothing. A catalog with a fault has no groups, and of several faults the one
in the first group counts (`ofValue_answers`).
-/

namespace StickerPages.Catalog

/-! ## Tags -/

/-- The second text is the first with every run of blanks made one underscore. -/
inductive Joined : List Char → List Char → Prop
  | nil : Joined [] []
  | solid {c : Char} {r t : List Char} (hc : Text.isBlank c = false) (h : Joined r t) :
      Joined (c :: r) (c :: t)
  | run {blanks r t : List Char} (hne : blanks ≠ [])
      (hblanks : ∀ c ∈ blanks, Text.isBlank c = true)
      (hend : ∀ c ∈ r.head?, Text.isBlank c = false) (h : Joined r t) :
      Joined (blanks ++ r) ('_' :: t)

/-- Within a run, and where no blank follows it, nothing is written. -/
theorem joinBlanks_run {blanks r : List Char} (hblanks : ∀ c ∈ blanks, Text.isBlank c = true)
    (hend : ∀ c ∈ r.head?, Text.isBlank c = false) :
    joinBlanks true (blanks ++ r) = joinBlanks false r := by
  induction blanks with
  | nil =>
      cases r with
      | nil => rfl
      | cons c r => simp [joinBlanks, hend c rfl]
  | cons b blanks ih =>
      rw [List.cons_append, joinBlanks, if_pos (hblanks b List.mem_cons_self), if_pos rfl]
      exact ih fun c hc => hblanks c (List.mem_cons_of_mem _ hc)

theorem joinBlanks_of_joined {cs t : List Char} (h : Joined cs t) : joinBlanks false cs = t := by
  induction h with
  | nil => rfl
  | solid hc _ ih => rw [joinBlanks, if_neg (by simp [hc]), ih]
  | @run blanks r t hne hblanks hend _ ih =>
      cases blanks with
      | nil => exact absurd rfl hne
      | cons b blanks =>
          have hrest : ∀ c ∈ blanks, Text.isBlank c = true :=
            fun c hc => hblanks c (List.mem_cons_of_mem _ hc)
          rw [List.cons_append, joinBlanks, if_pos (hblanks b List.mem_cons_self),
            if_neg (by decide), joinBlanks_run hrest hend, ih]

theorem joined_joinBlanks (cs : List Char) : Joined cs (joinBlanks false cs) := by
  -- The induction takes a whole run at a time.
  induction hn : cs.length using Nat.strongRecOn generalizing cs with
  | _ n ih =>
      cases cs with
      | nil => exact .nil
      | cons c r =>
          rw [List.length_cons] at hn
          cases hc : Text.isBlank c with
          | false =>
              rw [joinBlanks, if_neg (by simp [hc])]
              exact .solid hc (ih r.length (by omega) r rfl)
          | true =>
              have hsplit := List.takeWhile_append_dropWhile (p := Text.isBlank) (l := r)
              have hblanks : ∀ d ∈ r.takeWhile Text.isBlank, Text.isBlank d = true :=
                fun d hd => List.mem_takeWhile_imp hd
              have hend : ∀ d ∈ (r.dropWhile Text.isBlank).head?, Text.isBlank d = false := by
                intro d hd
                have hdrop := List.head?_dropWhile_not Text.isBlank r
                rw [Option.mem_def.mp hd] at hdrop
                exact hdrop
              have hlen : (r.dropWhile Text.isBlank).length ≤ r.length :=
                (List.dropWhile_suffix Text.isBlank).length_le
              have hjoined := ih (r.dropWhile Text.isBlank).length (by omega) _ rfl
              rw [joinBlanks, if_pos hc, if_neg (by decide)]
              have hrun : Joined ((c :: r.takeWhile Text.isBlank) ++ r.dropWhile Text.isBlank)
                  ('_' :: joinBlanks false (r.dropWhile Text.isBlank)) :=
                .run (by simp) (List.forall_mem_cons.mpr ⟨hc, hblanks⟩) hend hjoined
              rw [← joinBlanks_run hblanks hend, List.cons_append, hsplit] at hrun
              exact hrun

/-- A tag is a name with its blanks joined. -/
theorem joined_iff {name tag : String} : Joined name.toList tag.toList ↔ tag = tagOf name := by
  constructor
  · intro h
    rw [tagOf, joinBlanks_of_joined h, String.ofList_toList]
  · rintro rfl
    rw [tagOf, String.toList_ofList]
    exact joined_joinBlanks _

/-! ## Items -/

/-- An item of a typed group is a map with an icon in words, and with a text if the group is one of
pictures. -/
def IsItem (type item : Value) : Prop :=
  ∃ es, item = .map es ∧ (∃ icon, Entries.at? es "icon" = some (.text icon)) ∧
    (type = .text "image" → Entries.at? es "text" ≠ none)

/-- The sticker an item stands for. -/
inductive ItemSticker (tag : String) (type : Value) : Value → Sticker → Prop
  | picture {es : Entries} {icon : String} {text : Value} (htype : type = .text "image")
      (hicon : Entries.at? es "icon" = some (.text icon))
      (htext : Entries.at? es "text" = some text) :
      ItemSticker tag type (.map es)
        { name := text.plain
          preview := (addresses icon).2
          original := (addresses icon).1
          alt := text.plain
          shortcode := ":" ++ tag ++ "_" ++ text.plain ++ ":" }
  | text {es : Entries} {icon : String} (htype : type ≠ .text "image")
      (hicon : Entries.at? es "icon" = some (.text icon)) :
      ItemSticker tag type (.map es)
        { name := icon, preview := "", original := "", alt := icon, shortcode := icon }

/-- What is wrong with an item. A field that is not there is missed before the icon is looked at. -/
inductive ItemFault (group : String) (type : Value) : Value → Fault → Prop
  | notMap {item : Value} (h : ∀ es, item ≠ .map es) :
      ItemFault group type item (.itemNotMap group item)
  | noIcon {es : Entries} (hicon : Entries.at? es "icon" = none) :
      ItemFault group type (.map es) (.itemLacks group "icon" (.map es))
  | noText {es : Entries} (htype : type = .text "image") (hicon : Entries.at? es "icon" ≠ none)
      (htext : Entries.at? es "text" = none) :
      ItemFault group type (.map es) (.itemLacks group "text" (.map es))
  | iconNotText {es : Entries} {icon : Value} (hicon : Entries.at? es "icon" = some icon)
      (hwords : ∀ s, icon ≠ .text s)
      (htext : type = .text "image" → Entries.at? es "text" ≠ none) :
      ItemFault group type (.map es) (.iconNotText group icon)

section

variable {group tag : String} {type : Value}

theorem isItem_iff {item : Value} : IsItem type item ↔ ∃ s, ItemSticker tag type item s := by
  constructor
  · rintro ⟨es, rfl, ⟨icon, hicon⟩, htext⟩
    by_cases htype : type = .text "image"
    · obtain ⟨text, ht⟩ := Option.ne_none_iff_exists'.mp (htext htype)
      exact ⟨_, .picture htype hicon ht⟩
    · exact ⟨_, .text htype hicon⟩
  · rintro ⟨s, h⟩
    cases h with
    | picture htype hicon htext => exact ⟨_, rfl, ⟨_, hicon⟩, fun _ => by simp [htext]⟩
    | text htype hicon => exact ⟨_, rfl, ⟨_, hicon⟩, fun h => absurd h htype⟩

/-- An item stands for a sticker, or something is wrong with it. -/
theorem item_cases (item : Value) :
    (∃ s, ItemSticker tag type item s) ∨ ∃ f, ItemFault group type item f := by
  rw [← isItem_iff]
  cases item with
  | scalar s => exact .inr ⟨_, .notMap fun _ h => by cases h⟩
  | list xs => exact .inr ⟨_, .notMap fun _ h => by cases h⟩
  | map es =>
      cases hicon : Entries.at? es "icon" with
      | none => exact .inr ⟨_, .noIcon hicon⟩
      | some icon =>
          by_cases htext : type = .text "image" → Entries.at? es "text" ≠ none
          · -- all fields are there, and now the icon is looked at
            by_cases hwords : ∃ s, icon = .text s
            · obtain ⟨s, rfl⟩ := hwords
              exact .inl ⟨es, rfl, ⟨s, hicon⟩, htext⟩
            · exact .inr ⟨_, .iconNotText hicon (fun s h => hwords ⟨s, h⟩) htext⟩
          · obtain ⟨htype, hnone⟩ := Classical.not_imp.mp htext
            exact .inr ⟨_, .noText htype (by simp [hicon]) (not_not.mp hnone)⟩

theorem iconText_not {icon : Value} (h : ∀ s, icon ≠ .text s) :
    iconText group icon = .error (.iconNotText group icon) := by
  unfold iconText
  split
  next s => exact absurd rfl (h s)
  next => rfl

theorem itemEntries_not {item : Value} (h : ∀ es, item ≠ .map es) :
    itemEntries group item = .error (.itemNotMap group item) := by
  unfold itemEntries
  split
  next es => exact absurd rfl (h es)
  next => rfl

theorem itemField_some {item v : Value} {es : Entries} {field : String}
    (h : Entries.at? es field = some v) : itemField group item es field = .ok v := by
  rw [itemField, h]

theorem itemField_none {item : Value} {es : Entries} {field : String}
    (h : Entries.at? es field = none) :
    itemField group item es field = .error (.itemLacks group field item) := by
  rw [itemField, h]

theorem pictureOf_answers (htype : type = .text "image") (item : Value) :
    Answers (pictureOf group tag item) (ItemSticker tag type item) (ItemFault group type item) := by
  refine .intro (fun s hs => ?_) (fun f hf => ?_) (item_cases item)
  · cases hs with
    | picture _ hicon htext =>
        rw [pictureOf, itemEntries, ok_bind, itemField_some hicon, ok_bind, itemField_some htext]
        rfl
    | text hother => exact absurd htype hother
  · cases hf with
    | notMap h => rw [pictureOf, itemEntries_not h, error_bind]
    | noIcon hicon => rw [pictureOf, itemEntries, ok_bind, itemField_none hicon, error_bind]
    | noText _ hicon htext =>
        obtain ⟨icon, hi⟩ := Option.ne_none_iff_exists'.mp hicon
        rw [pictureOf, itemEntries, ok_bind, itemField_some hi, ok_bind, itemField_none htext,
          error_bind]
    | iconNotText hicon hwords htext =>
        obtain ⟨text, ht⟩ := Option.ne_none_iff_exists'.mp (htext htype)
        rw [pictureOf, itemEntries, ok_bind, itemField_some hicon, ok_bind, itemField_some ht,
          ok_bind, iconText_not hwords, error_bind]

theorem textOf_answers (htype : type ≠ .text "image") (item : Value) :
    Answers (textOf group item) (ItemSticker tag type item) (ItemFault group type item) := by
  refine .intro (fun s hs => ?_) (fun f hf => ?_) (item_cases item)
  · cases hs with
    | picture hother => exact absurd hother htype
    | text _ hicon =>
        rw [textOf, itemEntries, ok_bind, itemField_some hicon]
        rfl
  · cases hf with
    | notMap h => rw [textOf, itemEntries_not h, error_bind]
    | noIcon hicon => rw [textOf, itemEntries, ok_bind, itemField_none hicon, error_bind]
    | noText hother => exact absurd hother htype
    | iconNotText hicon hwords =>
        rw [textOf, itemEntries, ok_bind, itemField_some hicon, ok_bind, iconText_not hwords,
          error_bind]

end

/-! ## Groups -/

/-- A group is a map. If it has a type and a container it is typed, and the container is a list of
items; if it lacks one of the two it is flat, and holds whatever it likes. -/
inductive IsGroup : Value → Prop
  | typed {es : Entries} {type : Value} {items : List Value}
      (htype : Entries.at? es "type" = some type)
      (hcontainer : Entries.at? es "container" = some (.list items))
      (hitems : ∀ item ∈ items, IsItem type item) : IsGroup (.map es)
  | flat {es : Entries} (h : Entries.at? es "type" = none ∨ Entries.at? es "container" = none) :
      IsGroup (.map es)

/-- The text is an address. -/
def Addresses (s : String) : Prop :=
  "http".toList <+: s.toList ∨ "/".toList <+: s.toList

/-- The sticker an entry of a flat group stands for. -/
inductive EntrySticker (tag : String) : Scalar × Value → Sticker → Prop
  | picture {name : Scalar} {s : String} (h : Addresses s) :
      EntrySticker tag (name, .text s)
        { name := name.plain
          preview := s
          original := s
          alt := name.plain
          shortcode := ":" ++ tag ++ "_" ++ name.plain ++ ":" }
  | text {name : Scalar} {v : Value} (h : ∀ s, v = .text s → ¬Addresses s) :
      EntrySticker tag (name, v)
        { name := name.plain, preview := "", original := "", alt := v.plain, shortcode := v.plain }

/-- The stickers of a group, one for each item or entry, in order. -/
inductive GroupStickers (tag : String) : Value → List Sticker → Prop
  | typed {es : Entries} {type : Value} {items : List Value} {ss : List Sticker}
      (htype : Entries.at? es "type" = some type)
      (hcontainer : Entries.at? es "container" = some (.list items))
      (hitems : List.Forall₂ (ItemSticker tag type) items ss) : GroupStickers tag (.map es) ss
  | flat {es : Entries} {ss : List Sticker}
      (h : Entries.at? es "type" = none ∨ Entries.at? es "container" = none)
      (hentries : List.Forall₂ (EntrySticker tag) es ss) : GroupStickers tag (.map es) ss

/-- What is wrong with a group. Of the items the first with a fault counts. -/
inductive GroupFault (group : String) : Value → Fault → Prop
  | notMap {v : Value} (h : ∀ es, v ≠ .map es) : GroupFault group v (.groupNotMap group)
  | notList {es : Entries} {type container : Value} (htype : Entries.at? es "type" = some type)
      (hcontainer : Entries.at? es "container" = some container)
      (h : ∀ items, container ≠ .list items) :
      GroupFault group (.map es) (.containerNotList group)
  | item {es : Entries} {type item : Value} {front back : List Value} {f : Fault}
      (htype : Entries.at? es "type" = some type)
      (hcontainer : Entries.at? es "container" = some (.list (front ++ item :: back)))
      (hfront : ∀ i ∈ front, IsItem type i) (hitem : ItemFault group type item f) :
      GroupFault group (.map es) f

section

variable {group tag : String}

theorem addresses_iff {s : String} : isAddress s = true ↔ Addresses s := by
  rw [isAddress, Bool.or_eq_true, String.startsWith_string_iff, String.startsWith_string_iff,
    Addresses]

theorem flatSticker_text {name : Scalar} {v : Value} (h : ∀ s, v = .text s → ¬Addresses s) :
    flatSticker tag name v =
      { name := name.plain, preview := "", original := "", alt := v.plain,
        shortcode := v.plain } := by
  unfold flatSticker
  split
  next s =>
    rw [if_neg fun hs => h s rfl (addresses_iff.mp hs)]
    rfl
  next => rfl

theorem entrySticker_iff {name : Scalar} {v : Value} {s : Sticker} :
    EntrySticker tag (name, v) s ↔ flatSticker tag name v = s := by
  constructor
  · intro h
    cases h with
    | picture h =>
        rw [flatSticker, if_pos (addresses_iff.mpr h)]
        rfl
    | text h => exact flatSticker_text h
  · rintro rfl
    by_cases haddress : ∃ s, v = .text s ∧ Addresses s
    · obtain ⟨s, rfl, h⟩ := haddress
      rw [flatSticker, if_pos (addresses_iff.mpr h)]
      exact .picture h
    · have htext : ∀ s, v = .text s → ¬Addresses s := fun s hv h => haddress ⟨s, hv, h⟩
      rw [flatSticker_text htext]
      exact .text htext

theorem forall₂_entrySticker_iff {es : Entries} {ss : List Sticker} :
    List.Forall₂ (EntrySticker tag) es ss ↔ (es.map fun e => flatSticker tag e.1 e.2) = ss := by
  have hentry : EntrySticker tag = fun e s => flatSticker tag e.1 e.2 = s := by
    funext e s
    exact propext entrySticker_iff
  rw [hentry, ← List.forall₂_map_left_iff, List.forall₂_eq_eq_eq]

theorem isScalar_text {v : Value} {s : String} : v.isScalar (.text s) = true ↔ v = .text s := by
  cases v with
  | scalar t => cases t <;> simp [Value.isScalar, Scalar.same, Scalar.whole?]
  | list xs => simp [Value.isScalar]
  | map es => simp [Value.isScalar]

theorem typedStickers_answers (type : Value) (items : List Value) :
    Answers (typedStickers group tag type (.list items))
      (List.Forall₂ (ItemSticker tag type) items)
      (FirstFaulty (ItemSticker tag type) (ItemFault group type) items) := by
  rw [typedStickers]
  split
  next h => exact .mapM (pictureOf_answers (isScalar_text.mp h)) items
  next h => exact .mapM (textOf_answers fun htype => h (isScalar_text.mpr htype)) items

theorem stickersOf_flat {es : Entries}
    (h : Entries.at? es "type" = none ∨ Entries.at? es "container" = none) :
    stickersOf group tag (.map es) = .ok (es.map fun e => flatSticker tag e.1 e.2) := by
  unfold stickersOf
  dsimp only
  split
  next type container htype hcontainer =>
    rw [htype, hcontainer] at h
    simp at h
  next => rfl

theorem stickersOf_typed {es : Entries} {type container : Value}
    (htype : Entries.at? es "type" = some type)
    (hcontainer : Entries.at? es "container" = some container) :
    stickersOf group tag (.map es) = typedStickers group tag type container := by
  rw [stickersOf, htype, hcontainer]

/-- A group has stickers, or something is wrong with it. -/
theorem group_cases (v : Value) :
    (∃ ss, GroupStickers tag v ss) ∨ ∃ f, GroupFault group v f := by
  cases v with
  | scalar s => exact .inr ⟨_, .notMap fun _ h => by cases h⟩
  | list xs => exact .inr ⟨_, .notMap fun _ h => by cases h⟩
  | map es =>
      cases htype : Entries.at? es "type" with
      | none => exact .inl ⟨_, .flat (.inl htype) (forall₂_entrySticker_iff.mpr rfl)⟩
      | some type =>
          cases hcontainer : Entries.at? es "container" with
          | none => exact .inl ⟨_, .flat (.inr hcontainer) (forall₂_entrySticker_iff.mpr rfl)⟩
          | some container =>
              by_cases hlist : ∃ items, container = .list items
              · obtain ⟨items, rfl⟩ := hlist
                -- a typed group has what its items have
                have hanswers : Answers (typedStickers group tag type (.list items)) _ _ :=
                  typedStickers_answers type items
                rcases hanswers.cases with
                  ⟨ss, hss⟩ | ⟨f, front, item, back, rfl, hfront, hitem⟩
                · exact .inl ⟨ss, .typed htype hcontainer hss⟩
                · have hfront' : ∀ i ∈ front, IsItem type i :=
                    fun i hi => isItem_iff.mpr (hfront i hi)
                  exact .inr ⟨f, .item htype hcontainer hfront' hitem⟩
              · exact .inr ⟨_, .notList htype hcontainer fun items h => hlist ⟨items, h⟩⟩

theorem stickersOf_answers (v : Value) :
    Answers (stickersOf group tag v) (GroupStickers tag v) (GroupFault group v) := by
  refine .intro (fun ss hss => ?_) (fun f hf => ?_) (group_cases v)
  · cases hss with
    | typed htype hcontainer hitems =>
        rw [stickersOf_typed htype hcontainer]
        exact ((typedStickers_answers _ _).ok ss).mpr hitems
    | flat h hentries => rw [stickersOf_flat h, forall₂_entrySticker_iff.mp hentries]
  · cases hf with
    | notMap h =>
        unfold stickersOf
        split
        next es => exact absurd rfl (h es)
        next => rfl
    | @notList es type container htype hcontainer h =>
        rw [stickersOf_typed htype hcontainer]
        unfold typedStickers
        split
        next items => exact absurd rfl (h items)
        next => rfl
    | item htype hcontainer hfront hitem =>
        rw [stickersOf_typed htype hcontainer]
        refine ((typedStickers_answers _ _).error f).mpr ⟨_, _, _, rfl, fun i hi => ?_, hitem⟩
        exact isItem_iff.mp (hfront i hi)

theorem isGroup_iff {v : Value} : IsGroup v ↔ ∃ ss, GroupStickers tag v ss := by
  constructor
  · intro h
    cases h with
    | typed htype hcontainer hitems =>
        obtain ⟨ss, hss⟩ := exists_forall₂.mpr fun i hi => isItem_iff.mp (hitems i hi)
        exact ⟨ss, .typed htype hcontainer hss⟩
    | flat h => exact ⟨_, .flat h (forall₂_entrySticker_iff.mpr rfl)⟩
  · rintro ⟨ss, h⟩
    cases h with
    | typed htype hcontainer hitems =>
        refine .typed htype hcontainer fun i hi => ?_
        exact isItem_iff.mpr (exists_forall₂.mp ⟨ss, hitems⟩ i hi)
    | flat h => exact .flat h

end

/-! ## Catalogs -/

/-- Nothing at all, or a map of groups. -/
def IsCatalog (v : Value) : Prop :=
  v = .null ∨ ∃ es, v = .map es ∧ ∀ e ∈ es, IsGroup e.2

/-- The group an entry of a catalog stands for. -/
structure EntryGroup (e : Scalar × Value) (g : Group) : Prop where
  name : g.name = e.1.plain
  tag : Joined e.1.plain.toList g.tag.toList
  icon : g.icon = ""
  stickers : GroupStickers g.tag e.2 g.stickers

/-- The groups of a catalog, one for each entry, in order. -/
inductive CatalogGroups : Value → List Group → Prop
  | null : CatalogGroups .null []
  | map {es : Entries} {gs : List Group} (h : List.Forall₂ EntryGroup es gs) :
      CatalogGroups (.map es) gs

/-- What is wrong with a catalog. Of the groups the first with a fault counts. -/
inductive CatalogFault : Value → Fault → Prop
  | notMap {v : Value} (hnull : v ≠ .null) (h : ∀ es, v ≠ .map es) :
      CatalogFault v (.notMap v.kindName)
  | group {front back : Entries} {name : Scalar} {v : Value} {f : Fault}
      (hfront : ∀ e ∈ front, IsGroup e.2) (hgroup : GroupFault name.plain v f) :
      CatalogFault (.map (front ++ (name, v) :: back)) f

theorem entryGroup_iff {name : Scalar} {v : Value} {g : Group} :
    EntryGroup (name, v) g ↔ ∃ ss, GroupStickers (tagOf name.plain) v ss ∧
      g = { name := name.plain, tag := tagOf name.plain, stickers := ss, icon := "" } := by
  constructor
  · rintro ⟨hname, htag, hicon, hstickers⟩
    obtain ⟨gname, gtag, gstickers, gicon⟩ := g
    obtain rfl : gtag = tagOf name.plain := joined_iff.mp htag
    obtain rfl : gname = name.plain := hname
    obtain rfl : gicon = "" := hicon
    exact ⟨gstickers, hstickers, rfl⟩
  · rintro ⟨ss, hss, rfl⟩
    exact ⟨rfl, joined_iff.mpr rfl, rfl, hss⟩

theorem groupOf_answers (name : Scalar) (v : Value) :
    Answers (groupOf name v) (EntryGroup (name, v)) (GroupFault name.plain v) := by
  have hanswers : Answers (stickersOf name.plain (tagOf name.plain) v) _ _ := stickersOf_answers v
  refine .intro (fun g hg => ?_) (fun f hf => ?_) ?_
  · obtain ⟨ss, hss, rfl⟩ := entryGroup_iff.mp hg
    rw [groupOf, (hanswers.ok ss).mpr hss]
    rfl
  · rw [groupOf, (hanswers.error f).mpr hf]
    rfl
  · rcases hanswers.cases with ⟨ss, hss⟩ | hf
    · exact .inl ⟨_, entryGroup_iff.mpr ⟨ss, hss, rfl⟩⟩
    · exact .inr hf

theorem isGroup_iff_entryGroup {e : Scalar × Value} : IsGroup e.2 ↔ ∃ g, EntryGroup e g := by
  have hstickers : IsGroup e.2 ↔ ∃ ss, GroupStickers (tagOf e.1.plain) e.2 ss := isGroup_iff
  rw [hstickers]
  constructor
  · rintro ⟨ss, hss⟩
    exact ⟨_, entryGroup_iff.mpr ⟨ss, hss, rfl⟩⟩
  · rintro ⟨g, hg⟩
    obtain ⟨ss, hss, -⟩ := entryGroup_iff.mp hg
    exact ⟨ss, hss⟩

/-- The reader's answer, as far as it goes into the groups. -/
theorem ofValue_map_answers (es : Entries) :
    Answers (ofValue (.map es)) (CatalogGroups (.map es)) (CatalogFault (.map es)) := by
  have hanswers := Answers.mapM (fun e : Scalar × Value => groupOf_answers e.1 e.2) es
  refine hanswers.congr (fun gs => ⟨.map, fun h => ?_⟩) fun f => ⟨?_, fun h => ?_⟩
  · cases h with
    | map h => exact h
  · rintro ⟨front, e, back, rfl, hfront, he⟩
    exact .group (fun e he => isGroup_iff_entryGroup.mpr (hfront e he)) he
  · cases h with
    | notMap _ h => exact absurd rfl (h es)
    | @group front back name v _ hfront hgroup =>
        exact ⟨front, (name, v), back, rfl, fun e he => isGroup_iff_entryGroup.mp (hfront e he),
          hgroup⟩

theorem ofValue_other {v : Value} (hnull : v ≠ .null) (h : ∀ es, v ≠ .map es) :
    ofValue v = .error (.notMap v.kindName) := by
  unfold ofValue
  split
  next => exact absurd rfl hnull
  next es => exact absurd rfl (h es)
  next => rfl

theorem catalogGroups_answers (v : Value) :
    Answers (ofValue v) (CatalogGroups v) (CatalogFault v) := by
  by_cases hmap : ∃ es, v = .map es
  · obtain ⟨es, rfl⟩ := hmap
    exact ofValue_map_answers es
  · refine .intro (fun gs hgs => ?_) (fun f hf => ?_) ?_
    · cases hgs with
      | null => rfl
      | map h => exact absurd ⟨_, rfl⟩ hmap
    · cases hf with
      | notMap hnull h => exact ofValue_other hnull h
      | group => exact absurd ⟨_, rfl⟩ hmap
    · by_cases hnull : v = .null
      · subst hnull
        exact .inl ⟨_, .null⟩
      · exact .inr ⟨_, .notMap hnull fun es h => hmap ⟨es, h⟩⟩

theorem isCatalog_iff {v : Value} : IsCatalog v ↔ ∃ gs, CatalogGroups v gs := by
  constructor
  · rintro (rfl | ⟨es, rfl, hgroups⟩)
    · exact ⟨_, .null⟩
    · obtain ⟨gs, hgs⟩ := exists_forall₂.mpr fun e he => isGroup_iff_entryGroup.mp (hgroups e he)
      exact ⟨gs, .map hgs⟩
  · rintro ⟨gs, h⟩
    cases h with
    | null => exact .inl rfl
    | @map es _ h =>
        refine .inr ⟨es, rfl, fun e he => ?_⟩
        exact isGroup_iff_entryGroup.mpr (exists_forall₂.mp ⟨gs, h⟩ e he)

/-- **Catalogs are read as a whole or refused, and nothing is lost.** Data is read just if it is a
catalog; what is read are the groups and stickers that stand in it, one for one and in order; and
what is refused is refused for the fault of its first group that has one. -/
theorem ofValue_answers (v : Value) :
    ((∃ gs, ofValue v = .ok gs) ↔ IsCatalog v) ∧
      (∀ gs, ofValue v = .ok gs ↔ CatalogGroups v gs) ∧
      ∀ f, ofValue v = .error f ↔ CatalogFault v f := by
  have hanswers := catalogGroups_answers v
  refine ⟨?_, hanswers.ok, hanswers.error⟩
  rw [isCatalog_iff]
  exact exists_congr hanswers.ok

end StickerPages.Catalog
