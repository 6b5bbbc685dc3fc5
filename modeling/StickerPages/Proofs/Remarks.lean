import Mathlib.Data.List.Perm.Subperm
import StickerPages.Proofs.Spellings

/-!
# The remark on a missing source

A configuration without a source of stickers is remarked upon, in the check, before the configuration
is read. The check prefers the name inside the file where a setting stands under both of its names,
and reading takes the last of the two. So the remark is about the configuration unless the outside
name stands behind the inside one in the laid section.

How that comes about is said for the two files (`Overruled`): one file has both names in this order,
or the example has the inside name and the file, written by somebody who knows the other, has the
outside one. In the latter case the file's value counts and the check looks at the example's.
-/

namespace StickerPages.Settings

open Entries

variable {d : Disk} {env : Environment} {path : String} {es bs os : Entries} {i o : String}
  {fallback : Value} {a : App}

/-! ## Two names of one setting -/

/-- How the name `o` comes to stand behind the name `i` in what two files come to. -/
inductive Overruled (i o : String) (base own : List String) : Prop
  /-- The example has both in this order. -/
  | below (h : [i, o].Sublist base)
  /-- The example has the one, and the file adds the other. -/
  | across (hi : i ∈ base) (ho : o ∉ base) (h : o ∈ own)
  /-- The file adds both in this order. -/
  | above (hi : i ∉ base) (ho : o ∉ base) (h : [i, o].Sublist own)

instance (i o : String) (base own : List String) : Decidable (Overruled i o base own) :=
  decidable_of_iff ([i, o].Sublist base ∨ (i ∈ base ∧ o ∉ base ∧ o ∈ own) ∨
      i ∉ base ∧ o ∉ base ∧ [i, o].Sublist own)
    ⟨fun
      | .inl h => .below h
      | .inr (.inl ⟨hi, ho, h⟩) => .across hi ho h
      | .inr (.inr ⟨hi, ho, h⟩) => .above hi ho h,
    fun
      | .below h => .inl h
      | .across hi ho h => .inr (.inl ⟨hi, ho, h⟩)
      | .above hi ho h => .inr (.inr ⟨hi, ho, h⟩)⟩

theorem overruled_iff (hos : os.TextsOnce) :
    Overruled i o bs.names os.names ↔ [i, o].Sublist (merge bs os).names := by
  rw [names_merge hos]
  constructor
  · rintro (h | ⟨hi, ho, h⟩ | ⟨hi, ho, h⟩)
    · exact h.trans (List.sublist_append_left ..)
    · have hadded : o ∈ os.names.filter (· ∉ bs.names) :=
        List.mem_filter.mpr ⟨h, by simpa using ho⟩
      exact (List.singleton_sublist.mpr hi).append (List.singleton_sublist.mpr hadded)
    · have hkept : [i, o].filter (fun n => n ∉ bs.names) = [i, o] :=
        List.filter_eq_self.mpr (by simp [hi, ho])
      rw [← hkept]
      exact (h.filter _).trans (List.sublist_append_right ..)
  · intro h
    obtain ⟨l₁, l₂, hsplit, h₁, h₂⟩ := List.sublist_append_iff.mp h
    have hnew {n : String} (hn : n ∈ l₂) : n ∈ os.names ∧ n ∉ bs.names := by
      simpa using List.mem_filter.mp (h₂.subset hn)
    match l₁, hsplit with
    | [], hsplit =>
        obtain rfl : [i, o] = l₂ := hsplit
        exact .above (hnew (by simp)).2 (hnew (by simp)).2 (h₂.trans List.filter_sublist)
    | [_], hsplit =>
        obtain ⟨rfl, rfl⟩ := List.cons.inj hsplit
        exact .across (h₁.subset (by simp)) (hnew (by simp)).2 (hnew (by simp)).1
    | [_, _], hsplit =>
        obtain ⟨hi, hsplit⟩ := List.cons.inj hsplit
        obtain ⟨ho, -⟩ := List.cons.inj hsplit
        exact .below (hi ▸ ho ▸ h₁)

/-- Of two names in this order the second is the last that occurs. -/
theorem lastName?_of_sublist (honce : es.TextsOnce) (h : [i, o].Sublist es.names) :
    lastName? [i, o] es = some o := by
  have hself : [i, o].filter (· ∈ [i, o]) = [i, o] := List.filter_eq_self.mpr (by simp)
  have hkept := h.filter (· ∈ [i, o])
  rw [hself] at hkept
  have hlength : (es.names.filter (· ∈ [i, o])).length ≤ [i, o].length :=
    (List.Nodup.subperm (honce.filter _) fun n hn => by
      simpa using (List.mem_filter.mp hn).2).length_le
  rw [lastName?, ← hkept.eq_of_length_le hlength]
  rfl

/-- Of two names that do not stand in this order the first counts, where it occurs. -/
theorem lastName?_of_not_sublist (h : ¬ [i, o].Sublist es.names) : lastName? [i, o] es =
    if i ∈ es.names then some i else if o ∈ es.names then some o else none := by
  cases hlast : lastName? [i, o] es with
  | none =>
      have hnone {n : String} (hn : n ∈ [i, o]) : n ∉ es.names := by
        rw [← at?_isSome_iff, lastName?_eq_none_iff.mp hlast n hn]
        exact Bool.false_ne_true
      rw [if_neg (hnone (by simp)), if_neg (hnone (by simp))]
  | some n =>
      obtain ⟨front, hfront⟩ := List.getLast?_eq_some_iff.mp hlast
      obtain ⟨hpair, hn⟩ := mem_of_lastName? hlast
      rw [at?_isSome_iff] at hn
      have hpair : n = i ∨ n = o := by simpa using hpair
      by_cases hi : i ∈ es.names
      · rw [if_pos hi]
        by_contra hne
        obtain rfl : n = o := hpair.resolve_left fun hni => hne (hni ▸ rfl)
        -- the first name stands in front of the last, which is the second
        have hmem : i ∈ front ++ [n] := hfront ▸ List.mem_filter.mpr ⟨hi, by simp⟩
        have hfirst : i ∈ front := by
          simpa [show i ≠ n from fun h => hne (h ▸ rfl)] using hmem
        have hpart : ([i] ++ [n]).Sublist (front ++ [n]) :=
          (List.singleton_sublist.mpr hfirst).append (List.Sublist.refl _)
        exact h ((hfront ▸ hpart).trans List.filter_sublist)
      · have hno : n = o := hpair.resolve_left fun hni => hi (hni ▸ hn)
        rw [if_neg hi, if_pos (hno ▸ hn), hno]

/-- **What reading takes of two names:** the outside one where it stands behind, and elsewhere the
one that the check prefers. -/
theorem lastUnder_pair (honce : es.TextsOnce) (fallback : Value) :
    (lastUnder [i, o] (texts es)).getD fallback =
      if [i, o].Sublist es.names then (es.at? o).getD fallback
      else eitherName es i o fallback := by
  rw [lastUnder_eq honce]
  split
  · next h =>
    rw [lastName?_of_sublist honce h]
    rfl
  · next h =>
    rw [lastName?_of_not_sublist h, eitherName]
    simp only [← at?_isSome_iff]
    cases hi : es.at? i <;> cases ho : es.at? o <;> simp [hi, ho]

/-- What comes of a setting with two names in two sections. -/
structure Heard (base own : Entries) (i o : String) (fallback v : Value) : Prop where
  preferred : ¬ Overruled i o base.names own.names → v = eitherName (merge base own) i o fallback
  last : Overruled i o base.names own.names → (merge base own).at? o = some v

theorem heard_lastUnder (hbs : bs.TextsOnce) (hos : os.TextsOnce) (fallback : Value) :
    Heard bs os i o fallback ((lastUnder [i, o] (texts (merge bs os))).getD fallback) := by
  rw [lastUnder_pair (textsOnce_merge os hbs)]
  constructor
  · intro h
    rw [if_neg ((overruled_iff hos).not.mp h)]
  · intro h
    have hsub := (overruled_iff hos).mp h
    have ho : o ∈ (merge bs os).names := hsub.subset (by simp)
    obtain ⟨v, hv⟩ := Option.isSome_iff_exists.mp (at?_isSome_iff.mpr ho)
    rw [if_pos hsub, hv, Option.getD_some]

/-! ## The remark -/

theorem eitherName_congr (h : texts es = texts os) (i o : String) (fallback : Value) :
    eitherName es i o fallback = eitherName os i o fallback := by
  rw [eitherName, at?_congr h, at?_congr h, eitherName]

theorem namesSource_eq (h : es.Sectioned "plugin") : namesSource es =
    ((eitherName (es.sectionAt "plugin") "enable_custom_mode" "enableCustomMode"
        (.bool false)).truthy ||
      (eitherName (es.sectionAt "plugin") "sticker_config_url" "stickerConfigUrl"
        (.text "")).truthy) := by
  rw [namesSource, sectionEntries?_eq h]

/-- A check that is passed remarks on a missing source, and on nothing else. -/
theorem mem_remarks_iff {remarks : Log} (h : check (.map es) = .ok remarks) :
    noSource ∈ remarks ↔ namesSource es = false := by
  rw [check_map] at h
  split at h
  · cases h
  · next layout _ =>
    cases hcheck : checkLayout layout with
    | error f => simp [hcheck, Except.map] at h
    | ok u =>
        rw [hcheck] at h
        obtain rfl := Except.ok.inj h
        cases namesSource es <;> simp

/-- **What the remark is about.** It is made if neither of the two values that the check prefers
counts. The configuration has these values, unless a setting's outside name stands behind the inside
one; then it has the one that stands there. -/
theorem ofFile_remarks (d : Disk) (env : Environment) (path : String) (a : App) (henv : env.Silent)
    (hholds : d.holds (Path.ofString path) = true) (hread : (App.ofFile d env path).2 = .ok a)
    (hown : (entriesIn d (Path.ofString path)).Sectioned "plugin")
    (hexample : (exampleIn d (Path.ofString path)).Sectioned "plugin") :
    let base := (exampleIn d (Path.ofString path)).sectionAt "plugin"
    let own := (entriesIn d (Path.ofString path)).sectionAt "plugin"
    (noSource ∈ (App.ofFile d env path).1 ↔
      (eitherName (merge base own) "enable_custom_mode" "enableCustomMode"
          (.bool false)).truthy = false ∧
        (eitherName (merge base own) "sticker_config_url" "stickerConfigUrl"
          (.text "")).truthy = false) ∧
    ∃ plugin, a.plugin = .section plugin ∧
      Heard base own "enable_custom_mode" "enableCustomMode" (.bool false) plugin.customMode ∧
      Heard base own "sticker_config_url" "stickerConfigUrl" (.text "") plugin.configUrl ∧
      (¬ Overruled "enable_custom_mode" "enableCustomMode" base.names own.names →
        ¬ Overruled "sticker_config_url" "stickerConfigUrl" base.names own.names →
        (noSource ∈ (App.ofFile d env path).1 ↔
          plugin.customMode.truthy = false ∧ plugin.configUrl.truthy = false)) := by
  intro base own
  obtain ⟨hunder, remarks, hcheck, hlog⟩ := ofFile_accepted hholds hread
  rw [henv.under] at hunder
  obtain rfl := Except.ok.inj hunder
  obtain ⟨hsectioned, htexts⟩ := sectioned_laidIn hexample hown
  have hbase : base.TextsOnce := (sectionsOnce_exampleIn d _).sectionAt _
  have hown' : own.TextsOnce := (sectionsOnce_entriesIn d _).sectionAt _
  have hremark : noSource ∈ (App.ofFile d env path).1 ↔
      (eitherName (merge base own) "enable_custom_mode" "enableCustomMode"
          (.bool false)).truthy = false ∧
        (eitherName (merge base own) "sticker_config_url" "stickerConfigUrl"
          (.text "")).truthy = false := by
    rw [hlog noSource (by decide), mem_remarks_iff hcheck, namesSource_eq hsectioned,
      eitherName_congr htexts, eitherName_congr htexts, Bool.or_eq_false_iff]
  have hheard (f : Field Plugin) (hf : f ∈ Section.fields) {i o : String}
      (hspellings : f.spellings = [i, o]) : Heard base own i o (f.get Section.default)
        (f.get (ofEntries Plugin ((laidIn d (Path.ofString path)).sectionAt "plugin"))) := by
    rw [get_ofEntries hf, hspellings, htexts]
    exact heard_lastUnder hbase hown' _
  have hmode : Heard base own "enable_custom_mode" "enableCustomMode" (.bool false)
      (ofEntries Plugin ((laidIn d (Path.ofString path)).sectionAt "plugin")).customMode :=
    hheard Section.fields[0] (List.getElem_mem _) (by decide)
  have hurl : Heard base own "sticker_config_url" "stickerConfigUrl" (.text "")
      (ofEntries Plugin ((laidIn d (Path.ofString path)).sectionAt "plugin")).configUrl :=
    hheard Section.fields[1] (List.getElem_mem _) (by decide)
  refine ⟨hremark, _, ?_, hmode, hurl, fun hm hu => ?_⟩
  · rw [readApp_portions (textsOnce_laidIn d _)]
    exact portionOf_of_entries (sectionEntries?_eq hsectioned)
  · rw [hremark, hmode.preferred hm, hurl.preferred hu]

/-- Whether the two settings of a source count in what was read. -/
def sourceOf? (r : Except Fault App) : Option (Bool × Bool) :=
  r.toOption.bind fun a => a.plugin.section?.map fun p => (p.customMode.truthy, p.configUrl.truthy)

theorem sourceOf?_ok {plugin : Plugin} (h : a.plugin = .section plugin) :
    sourceOf? (.ok a) = some (plugin.customMode.truthy, plugin.configUrl.truthy) := by
  simp [sourceOf?, Except.toOption, h, Portion.section?]

/-- A file beside an example that has the address under its outside name. -/
def besideOutside : Disk where
  files := [(["config.yaml"], "plugin: {sticker_config_url: u}".toUTF8),
    ([exampleName], "plugin:\n stickerConfigUrl: ''".toUTF8)]

/-- The file's address counts, and there is no remark. -/
theorem ofFile_remarks_besideOutside :
    Environment.Silent [] ∧ besideOutside.holds (Path.ofString "config.yaml") = true ∧
      sourceOf? (App.ofFile besideOutside [] "config.yaml").2 = some (false, true) ∧
      noSource ∉ (App.ofFile besideOutside [] "config.yaml").1 := by
  have hsilent : Environment.Silent [] := ⟨rfl, rfl⟩
  have hfiles : (besideOutside.holds (Path.ofString "config.yaml") = true ∧
      sourceOf? (App.ofFile besideOutside [] "config.yaml").2 = some (false, true)) ∧
      ((entriesIn besideOutside (Path.ofString "config.yaml")).Sectioned "plugin" ∧
        (exampleIn besideOutside (Path.ofString "config.yaml")).Sectioned "plugin") ∧
      let base := (exampleIn besideOutside (Path.ofString "config.yaml")).sectionAt "plugin"
      let own := (entriesIn besideOutside (Path.ofString "config.yaml")).sectionAt "plugin"
      ¬ Overruled "enable_custom_mode" "enableCustomMode" base.names own.names ∧
        ¬ Overruled "sticker_config_url" "stickerConfigUrl" base.names own.names := by
    decide +kernel
  obtain ⟨⟨hholds, hsource⟩, ⟨hown, hexample⟩, hmode, hurl⟩ := hfiles
  refine ⟨hsilent, hholds, hsource, ?_⟩
  cases hread : (App.ofFile besideOutside [] "config.yaml").2 with
  | error f => rw [hread] at hsource; cases hsource
  | ok a =>
      obtain ⟨-, plugin, hplugin, -, -, htrue⟩ :=
        ofFile_remarks besideOutside [] "config.yaml" a hsilent hholds hread hown hexample
      rw [hread, sourceOf?_ok hplugin] at hsource
      rw [htrue hmode hurl]
      rintro ⟨-, hnone⟩
      simp [hnone] at hsource

/-- A file that has the address under its outside name, beside an example with the inside one. -/
def besideInside : Disk where
  files := [(["config.yaml"], "plugin: {stickerConfigUrl: u}".toUTF8),
    ([exampleName], "plugin:\n sticker_config_url: ''".toUTF8)]

/-- **The remark can be wrong:** it is made on a configuration that has an address. -/
theorem ofFile_remarks_wrongly : ¬ ∀ (d : Disk) (env : Environment) (path : String) (a : App),
    env.Silent → d.holds (Path.ofString path) = true → (App.ofFile d env path).2 = .ok a →
    (entriesIn d (Path.ofString path)).Sectioned "plugin" →
    (exampleIn d (Path.ofString path)).Sectioned "plugin" →
    ∃ plugin, a.plugin = .section plugin ∧ (noSource ∈ (App.ofFile d env path).1 ↔
      plugin.customMode.truthy = false ∧ plugin.configUrl.truthy = false) := by
  intro h
  have hfiles : (besideInside.holds (Path.ofString "config.yaml") = true ∧
      sourceOf? (App.ofFile besideInside [] "config.yaml").2 = some (false, true)) ∧
      ((entriesIn besideInside (Path.ofString "config.yaml")).Sectioned "plugin" ∧
        (exampleIn besideInside (Path.ofString "config.yaml")).Sectioned "plugin") ∧
      noSource ∈ (App.ofFile besideInside [] "config.yaml").1 := by
    decide +kernel
  obtain ⟨⟨hholds, hsource⟩, ⟨hown, hexample⟩, hremark⟩ := hfiles
  cases hread : (App.ofFile besideInside [] "config.yaml").2 with
  | error f => rw [hread] at hsource; cases hsource
  | ok a =>
      obtain ⟨plugin, hplugin, hiff⟩ :=
        h besideInside [] "config.yaml" a ⟨rfl, rfl⟩ hholds hread hown hexample
      rw [hread, sourceOf?_ok hplugin] at hsource
      simp [(hiff.mp hremark).2] at hsource

end StickerPages.Settings
