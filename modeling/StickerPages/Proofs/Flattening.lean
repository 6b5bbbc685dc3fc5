import StickerPages.Proofs.Calling

/-!
# Catalogs as tables

A page does not look stickers up in groups. It has the table of a catalog, and the table says less:
which codes there are, in the order in which they first come, and for each the original of the last
sticker that goes by it. That is said here by the stickers in their order alone, without any writing
to a table (`lookup_shortcodeMap_iff`).

What a page finds in the table is never an empty address. A sticker is a picture by its preview and
the table holds originals, but of an icon's two addresses each stands in for the other, so both are
missing or none is (`GroupStickers.preview_eq_empty_iff`).

Where no two stickers share a code, table and groups agree: one group alone finds a sticker by the
code, and its original is the one in the table (`filterMap_find?_of_once`). Texts count there, for a
text goes by itself as its code, and a group may find it in front of a picture.
-/

namespace StickerPages.Catalog

variable {gs : List Group} {s : Sticker} {code url : String}

/-- The stickers of all groups, in order. -/
def stickersIn (gs : List Group) : List Sticker := gs.flatMap fun g => g.stickers

/-- The sticker is a picture that has a code. -/
def Sticker.Callable (s : Sticker) : Prop := s.preview ≠ "" ∧ s.shortcode ≠ ""

instance : DecidablePred Sticker.Callable := fun s =>
  inferInstanceAs (Decidable (s.preview ≠ "" ∧ s.shortcode ≠ ""))

theorem isImage_iff : s.isImage = true ↔ s.preview ≠ "" := by
  simp [Sticker.isImage]

theorem callable_eq (gs : List Group) :
    callable gs = (stickersIn gs).filter fun s => decide s.Callable := by
  refine List.filter_congr fun s _ => ?_
  rw [Bool.eq_iff_iff, Bool.and_eq_true, isImage_iff, decide_eq_true_eq, Sticker.Callable]
  simp

/-! ## What the table holds -/

/-- The codes stand in the order in which they first come. -/
theorem keys_shortcodeMap (gs : List Group) :
    (shortcodeMap gs).map (·.1) =
      (((stickersIn gs).filter fun s => decide s.Callable).map (·.shortcode)).eraseDups := by
  rw [shortcodeMap, Pairs.keys_putAll, List.map_map, callable_eq]
  rfl

/-- The last sticker that can be called for by this code. -/
structure LastCalled (gs : List Group) (code : String) (s : Sticker) : Prop where
  callable : s.Callable
  named : s.shortcode = code
  last : ∃ front back, stickersIn gs = front ++ s :: back ∧
    ∀ t ∈ back, t.Callable → t.shortcode ≠ code

theorem LastCalled.mem (h : LastCalled gs code s) : s ∈ stickersIn gs := by
  obtain ⟨front, back, hsplit, -⟩ := h.last
  rw [hsplit]
  exact List.mem_append_right front List.mem_cons_self

theorem lookup_callable (ss : List Sticker) (code : String) :
    ((ss.filter fun s => decide s.Callable).map fun s => (s.shortcode, s.original)).lookup code =
      (ss.find? fun s => decide (s.Callable ∧ s.shortcode = code)).map (·.original) := by
  induction ss with
  | nil => rfl
  | cons s r ih =>
      by_cases hs : s.Callable
      · rw [List.filter_cons_of_pos (by simpa using hs), List.map_cons, List.lookup_cons]
        by_cases hcode : s.shortcode = code
        · rw [List.find?_cons_of_pos (by simpa using ⟨hs, hcode⟩), hcode, beq_self_eq_true]
          rfl
        · rw [List.find?_cons_of_neg (by simpa using fun _ => hcode),
            beq_eq_false_iff_ne.mpr (Ne.symm hcode), ih]
      · rw [List.filter_cons_of_neg (by simpa using hs),
          List.find?_cons_of_neg (by simpa using fun h => absurd h hs), ih]

/-- **A code has the original of the last sticker that goes by it.** -/
theorem lookup_shortcodeMap_iff :
    (shortcodeMap gs).lookup code = some url ↔ ∃ s, LastCalled gs code s ∧ s.original = url := by
  rw [shortcodeMap, Pairs.lookup_putAll, callable_eq, ← List.map_reverse, ← List.filter_reverse,
    lookup_callable, Option.map_eq_some_iff]
  refine exists_congr fun s => and_congr_left fun _ => ?_
  rw [List.find?_eq_some_iff_append]
  constructor
  · rintro ⟨hs, back, front, hsplit, hback⟩
    obtain ⟨hcallable, hcode⟩ := of_decide_eq_true hs
    refine ⟨hcallable, hcode, front.reverse, back.reverse, ?_, fun t ht hcalled hsame => ?_⟩
    · rw [← List.reverse_reverse (stickersIn gs), hsplit]
      simp
    · have hnot := hback t (List.mem_reverse.mp ht)
      rw [Bool.not_eq_true', decide_eq_false_iff_not] at hnot
      exact hnot ⟨hcalled, hsame⟩
  · rintro ⟨hcallable, hcode, front, back, hsplit, hback⟩
    refine ⟨decide_eq_true ⟨hcallable, hcode⟩, back.reverse, front.reverse, ?_, fun t ht => ?_⟩
    · rw [hsplit]
      simp
    · rw [Bool.not_eq_true', decide_eq_false_iff_not]
      exact fun h => hback t (List.mem_reverse.mp ht) h.1 h.2

/-! ## Table and groups -/

/-- No two stickers share a code. Stickers without one do not count. -/
def CodesOnce (gs : List Group) : Prop :=
  (((stickersIn gs).map (·.shortcode)).filter (· ≠ "")).Nodup

/-- Where all lists together hold one thing, it is the head of one list. -/
theorem filterMap_head?_of_flatten {α : Type} {a : α} {ls : List (List α)} (h : ls.flatten = [a]) :
    ls.filterMap List.head? = [a] := by
  induction ls with
  | nil => cases h
  | cons l r ih =>
      rw [List.flatten_cons, List.append_eq_singleton_iff] at h
      rcases h with ⟨rfl, hr⟩ | ⟨rfl, hr⟩
      · rw [List.filterMap_cons_none rfl, ih hr]
      · have hnone : r.filterMap List.head? = [] := by
          rw [List.filterMap_eq_nil_iff]
          intro l hl
          rw [List.flatten_eq_nil_iff.mp hr l hl, List.head?_nil]
        rw [List.filterMap_cons_some List.head?_singleton, hnone]

/-- The stickers with a code that comes once. -/
theorem filter_of_once (honce : CodesOnce gs) (hs : s ∈ stickersIn gs) (hcode : s.shortcode ≠ "") :
    (stickersIn gs).filter (fun t => t.shortcode == s.shortcode) = [s] := by
  have hcount : ((stickersIn gs).filter fun t => t.shortcode == s.shortcode).length ≤ 1 := by
    have hle := List.nodup_iff_count_le_one.mp honce s.shortcode
    rwa [List.count_filter (by simpa using hcode), List.count_eq_countP, List.countP_map,
      List.countP_eq_length_filter] at hle
  have hmem : s ∈ (stickersIn gs).filter fun t => t.shortcode == s.shortcode :=
    List.mem_filter.mpr ⟨hs, beq_self_eq_true _⟩
  obtain ⟨t, ht⟩ := List.length_eq_one_iff.mp
    (Nat.le_antisymm hcount (List.length_pos_of_mem hmem))
  rw [ht, List.mem_singleton] at hmem
  rw [ht, hmem]

/-- **Where no two stickers share a code, one group alone finds a sticker by its code.** -/
theorem filterMap_find?_of_once (honce : CodesOnce gs) (hs : s ∈ stickersIn gs)
    (hcode : s.shortcode ≠ "") : gs.filterMap (fun g => g.find? s.shortcode) = [s] := by
  have hflat : (gs.map fun g => g.stickers.filter fun t => t.shortcode == s.shortcode).flatten =
      [s] := by
    rw [← filter_of_once honce hs hcode, stickersIn, List.filter_flatMap, List.flatMap]
  have hheads := filterMap_head?_of_flatten hflat
  rw [List.filterMap_map] at hheads
  rw [← hheads]
  refine List.filterMap_congr fun g _ => ?_
  rw [Group.find?, Function.comp_apply, List.head?_filter]

/-! ## Addresses in a catalog -/

theorem completeUrl_eq_empty_iff : completeUrl url = "" ↔ url = "" := by
  constructor
  · intro h
    have hparts := congrArg String.toList h
    rw [toList_completeUrl] at hparts
    exact String.toList_eq_nil_iff.mp (List.append_eq_nil_iff.mp hparts).2
  · rintro rfl
    decide

/-- Both addresses of an icon are missing, or none is. -/
theorem addresses_eq_empty_iff (icon : String) :
    (addresses icon).2 = "" ↔ (addresses icon).1 = "" := by
  have hfound (key : String) : ∀ v ∈ (valueBehind? key.toList icon.toList).map String.ofList,
      v ≠ "" := by
    intro v hv
    obtain ⟨cs, hcs, rfl⟩ := Option.map_eq_some_iff.mp hv
    simpa using (of_valueBehind?_eq_some hcs).1
  have hsource := hfound "src="
  have horiginal := hfound "origin="
  unfold addresses
  dsimp only
  rw [completeUrl_eq_empty_iff, completeUrl_eq_empty_iff]
  cases hs : (valueBehind? "src=".toList icon.toList).map String.ofList with
  | some source =>
      refine iff_of_false (hsource source hs) ?_
      cases ho : (valueBehind? "origin=".toList icon.toList).map String.ofList with
      | some original => exact horiginal original ho
      | none => exact hsource source hs
  | none => rfl

/-- **A sticker has both addresses or none.** -/
theorem GroupStickers.preview_eq_empty_iff {tag : String} {v : Value} {ss : List Sticker}
    (h : GroupStickers tag v ss) (hs : s ∈ ss) : s.preview = "" ↔ s.original = "" := by
  rcases h.written hs with ⟨type, item, hitem⟩ | ⟨entry, hentry⟩
  · cases hitem with
    | picture => exact addresses_eq_empty_iff _
    | text => rfl
  · cases hentry with
    | picture => rfl
    | text => rfl

/-! ## The table of a catalog -/

/-- **The table of some groups says of each code the original of its last sticker**, the codes in
the order in which they first come. Where no two stickers share a code, just one group finds a
sticker by it, and that one. Of a catalog's stickers each has both addresses or none, so no address
in its table is empty. -/
theorem shortcodeMap_flattens (gs : List Group) :
    (shortcodeMap gs).map (·.1) =
        (((stickersIn gs).filter fun s => decide s.Callable).map (·.shortcode)).eraseDups ∧
      (∀ code url, (shortcodeMap gs).lookup code = some url ↔
        ∃ s, LastCalled gs code s ∧ s.original = url) ∧
      (CodesOnce gs → ∀ code url, (shortcodeMap gs).lookup code = some url →
        ∃ s, gs.filterMap (fun g => g.find? code) = [s] ∧ s.original = url) ∧
      ∀ v, ofValue v = .ok gs →
        (∀ s ∈ stickersIn gs, s.preview = "" ↔ s.original = "") ∧
          ∀ code url, (shortcodeMap gs).lookup code = some url → url ≠ "" := by
  refine ⟨keys_shortcodeMap gs, fun _ _ => lookup_shortcodeMap_iff, ?_, fun v hv => ?_⟩
  · intro honce code url hlookup
    obtain ⟨s, hs, rfl⟩ := lookup_shortcodeMap_iff.mp hlookup
    obtain rfl := hs.named
    exact ⟨s, filterMap_find?_of_once honce hs.mem hs.callable.2, rfl⟩
  · have hboth : ∀ s ∈ stickersIn gs, s.preview = "" ↔ s.original = "" := by
      intro s hs
      obtain ⟨g, hg, hs⟩ := List.mem_flatMap.mp hs
      obtain ⟨w, hw⟩ := exists_groupStickers hv hg
      exact hw.preview_eq_empty_iff hs
    refine ⟨hboth, fun code url hlookup => ?_⟩
    obtain ⟨s, hs, rfl⟩ := lookup_shortcodeMap_iff.mp hlookup
    exact fun hempty => hs.callable.1 ((hboth s hs.mem).mpr hempty)

/-- A flat group with a text in it, and a typed group whose icon has two addresses. -/
def mixedCatalog : Value :=
  .map [(.text "a", .map [(.text "hi", .text "/1.png"), (.text "x", .text "yo")]),
    (.text "b c", .map [(.text "type", .text "image"),
      (.text "container", .list [.map [(.text "text", .text "hi"),
        (.text "icon", .text "<img src='/2.png' origin=\"//o/2.png\">")]])])]

/-- The groups of that catalog. -/
def mixedGroups : List Group :=
  [{ name := "a", tag := "a", stickers :=
      [{ name := "hi", preview := "/1.png", alt := "hi", shortcode := ":a_hi:" },
       { name := "x", alt := "yo", shortcode := "yo" }] },
   { name := "b c", tag := "b_c", stickers :=
      [{ name := "hi", preview := "/2.png", original := "https://o/2.png", alt := "hi",
         shortcode := ":b_c_hi:" }] }]

theorem shortcodeMap_flattens_mixedGroups :
    CodesOnce mixedGroups ∧ ofValue mixedCatalog = .ok mixedGroups ∧
      (shortcodeMap mixedGroups).lookup ":b_c_hi:" = some "https://o/2.png" ∧
      (∃ s, mixedGroups.filterMap (fun g => g.find? ":b_c_hi:") = [s] ∧
        s.original = "https://o/2.png") ∧ "https://o/2.png" ≠ "" := by
  have honce : CodesOnce mixedGroups := by
    unfold CodesOnce
    decide +kernel
  have hread : ofValue mixedCatalog = .ok mixedGroups := by
    have hsome : (ofValue mixedCatalog).toOption = some mixedGroups := by decide +kernel
    cases h : ofValue mixedCatalog with
    | error e =>
        rw [h] at hsome
        cases hsome
    | ok gs =>
        rw [h] at hsome
        cases hsome
        rfl
  have hlookup : (shortcodeMap mixedGroups).lookup ":b_c_hi:" = some "https://o/2.png" := by
    decide +kernel
  obtain ⟨-, -, hfind, hcatalog⟩ := shortcodeMap_flattens mixedGroups
  exact ⟨honce, hread, hlookup, hfind honce _ _ hlookup, (hcatalog _ hread).2 _ _ hlookup⟩

-- two groups may have the same tag; then a code keeps its place, and the later picture counts
example :
    shortcodeMap
        [{ name := "a b",
           stickers := [{ name := "x", preview := "/1.png", shortcode := ":a_b_x:" },
             { name := "y", preview := "/2.png", shortcode := ":a_b_y:" }] },
         { name := "a_b",
           stickers := [{ name := "x", preview := "/3.png", shortcode := ":a_b_x:" }] }] =
      [(":a_b_x:", "/3.png"), (":a_b_y:", "/2.png")] := by decide +kernel

end StickerPages.Catalog
