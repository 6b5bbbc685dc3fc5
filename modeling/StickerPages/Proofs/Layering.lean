import StickerPages.Proofs.Spellings

/-!
# Settings from two files

A setting has the value that the file gives it, under whichever of its names, or else the value that
the example gives it, or else its default. The two files are merged key by key before anybody knows
that two keys name one setting, so both names can stand in the merged section. It comes out right
because a name that is new on top is put behind all names of the base, and the last one counts
(`lastUnder_merge`).

This needs that neither file gives one setting under two names (`Tidy`), for inside one file the order
decides, and merging can keep a place that was taken in the example.
-/

namespace StickerPages.Settings

open Entries

variable {d : Disk} {env : Environment} {path : String} {es bs os : Entries} {spellings : List String}
  {n : String} {v : Value} {a : App}

/-! ## One name at most -/

/-- The map has an entry under at most one of these names. -/
def SpeltOnce (spellings : List String) (es : Entries) : Prop :=
  ∀ m ∈ spellings, ∀ n ∈ spellings, (es.at? m).isSome = true → (es.at? n).isSome = true → m = n

/-- The value that a map gives under one of these names. -/
def given? (spellings : List String) (es : Entries) : Option Value := spellings.findSome? es.at?

instance (spellings : List String) (es : Entries) : Decidable (SpeltOnce spellings es) :=
  inferInstanceAs (Decidable (∀ m ∈ spellings, ∀ n ∈ spellings, _ → _ → m = n))

theorem given?_of_at? (h : SpeltOnce spellings es) (hn : n ∈ spellings) (hv : es.at? n = some v) :
    given? spellings es = some v := by
  cases hgiven : given? spellings es with
  | none =>
      rw [given?, List.findSome?_eq_none_iff] at hgiven
      cases (hgiven n hn).symm.trans hv
  | some w =>
      obtain ⟨m, hm, hw⟩ := List.exists_of_findSome?_eq_some hgiven
      obtain rfl := h m hm n hn (by simp [hw]) (by simp [hv])
      exact hw.symm.trans hv

theorem given?_eq_none (h : ∀ n ∈ spellings, es.at? n = none) : given? spellings es = none :=
  List.findSome?_eq_none_iff.mpr h

theorem layOver_plain {below : Option Value} (h : ∀ fs, v ≠ .map fs) : layOver below v = v := by
  cases v with
  | map fs => exact absurd rfl (h fs)
  | _ => simp only [layOver]

/-- **The upper map's value counts, and without one the lower map's**, whatever the names. -/
theorem lastUnder_merge (hbs : bs.TextsOnce) (hos : os.TextsOnce) (hlower : SpeltOnce spellings bs)
    (hupper : SpeltOnce spellings os)
    (hplain : ∀ n ∈ spellings, ∀ fs, os.at? n ≠ some (.map fs)) :
    lastUnder spellings (texts (merge bs os)) = (given? spellings os).or (given? spellings bs) := by
  have hat {m : String} {w : Value} (hm : m ∈ spellings) (hw : os.at? m = some w) :
      (merge bs os).at? m = some w := by
    rw [at?_merge m hos, hw]
    dsimp only
    rw [layOver_plain fun fs hfs => hplain m hm fs (hfs ▸ hw)]
  rw [lastUnder_eq (textsOnce_merge os hbs)]
  obtain ⟨n, hn, hlast, hsome⟩ | ⟨hlast, hold⟩ := lastName?_merge spellings hos bs
  · obtain ⟨v, hv⟩ := Option.isSome_iff_exists.mp hsome
    rw [hlast, Option.bind_some, hat hn hv, given?_of_at? hupper hn hv, Option.some_or]
  · rw [hlast]
    cases hbase : lastName? spellings bs with
    | none =>
        have hbelow := lastName?_eq_none_iff.mp hbase
        have habove : ∀ n ∈ spellings, os.at? n = none := by
          intro n hn
          rw [← Option.not_isSome_iff_eq_none]
          intro hsome
          simpa [hbelow n hn] using hold n hn hsome
        rw [given?_eq_none hbelow, given?_eq_none habove]
        rfl
    | some m =>
        obtain ⟨hm, hsome⟩ := mem_of_lastName? hbase
        obtain ⟨v, hv⟩ := Option.isSome_iff_exists.mp hsome
        rw [Option.bind_some, given?_of_at? hlower hm hv]
        cases hown : os.at? m with
        | some w => rw [hat hm hown, given?_of_at? hupper hm hown, Option.some_or]
        | none =>
            -- any other name on top would be a second one in the base
            have habove : ∀ n ∈ spellings, os.at? n = none := by
              intro n hn
              rw [← Option.not_isSome_iff_eq_none]
              intro hn'
              obtain rfl := hlower n hn m hm (hold n hn hn') hsome
              simp [hown] at hn'
            rw [at?_merge m hos, hown, given?_eq_none habove, Option.none_or]
            exact hv

/-! ## All settings -/

/-- A setting of a configuration: the section and the names it is written under, and where it is
found. -/
structure Setting where
  section_ : String
  spellings : List String
  default : Value
  get : App → Option Value

/-- The settings of a section. -/
def settingsOf (σ : Type) [Section σ] (name : String) (portion : App → Portion σ) : List Setting :=
  (Section.fields : List (Field σ)).map fun f =>
    ⟨name, f.spellings, f.get Section.default, fun a => (portion a).section?.map f.get⟩

/-- All settings. -/
def settings : List Setting :=
  settingsOf System "system" App.system ++ settingsOf Plugin "plugin" App.plugin ++
    settingsOf Layout "layout" App.layout ++ settingsOf Loader "loader" App.loader

/-- The value that a file gives a setting, under whichever of its names. -/
def Setting.given? (x : Setting) (es : Entries) : Option Value :=
  Settings.given? x.spellings (es.sectionAt x.section_)

/-- The sections that are there are maps, and none has a setting under two names. -/
structure Tidy (es : Entries) : Prop where
  sectioned : ∀ name ∈ ["system", "plugin", "layout", "loader"], es.Sectioned name
  once : ∀ x ∈ settings, SpeltOnce x.spellings (es.sectionAt x.section_)

instance (es : Entries) : Decidable (Tidy es) :=
  decidable_of_iff (_ ∧ _) ⟨fun h => ⟨h.1, h.2⟩, fun h => ⟨h.sectioned, h.once⟩⟩

theorem forall_settings {P : Setting → Prop} : (∀ x ∈ settings, P x) ↔
    (∀ x ∈ settingsOf System "system" App.system, P x) ∧
      (∀ x ∈ settingsOf Plugin "plugin" App.plugin, P x) ∧
      (∀ x ∈ settingsOf Layout "layout" App.layout, P x) ∧
      ∀ x ∈ settingsOf Loader "loader" App.loader, P x := by
  simp only [settings, List.forall_mem_append, and_assoc]

section

variable {σ : Type} [Section σ] [LawfulSection σ] {name : String} {portion : App → Portion σ}

/-- The settings of a section that was read from a map. -/
theorem get_settingsOf (hes : es.Sectioned name) (ha : portion a = portionOf σ (es.at? name)) :
    ∀ x ∈ settingsOf σ name portion, x.get a =
      some ((lastUnder x.spellings (texts (es.sectionAt x.section_))).getD x.default) := by
  intro x hx
  obtain ⟨f, hf, rfl⟩ := List.mem_map.mp hx
  dsimp only
  rw [ha, portionOf_of_entries (sectionEntries?_eq hes), Portion.section?, Option.map_some, get_ofEntries hf]

/-- Sections with the same settings are the same. -/
theorem portion_ext {b : App} (ha : (portion a).section?.isSome = true)
    (hb : (portion b).section?.isSome = true)
    (h : ∀ x ∈ settingsOf σ name portion, x.get a = x.get b) : portion a = portion b := by
  have hget : ∀ f ∈ (Section.fields : List (Field σ)),
      (portion a).section?.map f.get = (portion b).section?.map f.get :=
    fun f hf => h _ (List.mem_map.mpr ⟨f, hf, rfl⟩)
  cases hs : portion a with
  | other v => rw [hs] at ha; cases ha
  | «section» s =>
      cases ht : portion b with
      | other v => rw [ht] at hb; cases hb
      | «section» t =>
          rw [hs, ht] at hget
          rw [LawfulSection.ext s t fun f hf => Option.some.inj (hget f hf)]

end

/-- Whole configurations with the same settings are the same. -/
theorem App.ext_settings {b : App} (ha : a.Whole) (hb : b.Whole)
    (h : ∀ x ∈ settings, x.get a = x.get b) : a = b := by
  obtain ⟨hsystem, hplugin, hlayout, hloader⟩ := forall_settings.mp h
  obtain ⟨system, plugin, layout, loader⟩ := a
  obtain ⟨system', plugin', layout', loader'⟩ := b
  obtain rfl : system = system' := portion_ext ha.system hb.system hsystem
  obtain rfl : plugin = plugin' := portion_ext ha.plugin hb.plugin hplugin
  obtain rfl : layout = layout' := portion_ext ha.layout hb.layout hlayout
  obtain rfl : loader = loader' := portion_ext ha.loader hb.loader hloader
  rfl

/-! ## Files -/

/-- There is a file; it and its example are tidy, and it gives no setting a map. -/
structure Legible (d : Disk) (path : String) : Prop where
  holds : d.holds (Path.ofString path) = true
  own : Tidy (entriesIn d (Path.ofString path))
  example_ : Tidy (exampleIn d (Path.ofString path))
  plain : ∀ x ∈ settings, ∀ n ∈ x.spellings, ∀ fs,
    ((entriesIn d (Path.ofString path)).sectionAt x.section_).at? n ≠ some (.map fs)

instance (o : Option Value) : Decidable (∀ fs, o ≠ some (.map fs)) :=
  match o with
  | none | some (.scalar _) | some (.list _) => isTrue nofun
  | some (.map fs) => isFalse fun h => h fs rfl

instance (d : Disk) (path : String) : Decidable (Legible d path) :=
  decidable_of_iff (_ ∧ _ ∧ _ ∧ _)
    ⟨fun h => ⟨h.1, h.2.1, h.2.2.1, h.2.2.2⟩, fun h => ⟨h.holds, h.own, h.example_, h.plain⟩⟩

theorem settings_section : ∀ x ∈ settings, x.section_ ∈ ["system", "plugin", "layout", "loader"] := by
  decide

/-- The settings of a configuration that was read from a map of maps. -/
theorem get_readApp (honce : es.TextsOnce)
    (hes : ∀ name ∈ ["system", "plugin", "layout", "loader"], es.Sectioned name) :
    ∀ x ∈ settings, x.get (readApp es).1 =
      some ((lastUnder x.spellings (texts (es.sectionAt x.section_))).getD x.default) := by
  rw [readApp_portions honce, forall_settings]
  refine ⟨get_settingsOf (hes _ ?_) rfl, get_settingsOf (hes _ ?_) rfl,
    get_settingsOf (hes _ ?_) rfl, get_settingsOf (hes _ ?_) rfl⟩
  all_goals simp

namespace Legible

/-- The map of a file, laid over that of its example, is a map of maps. -/
theorem sectioned (h : Legible d path) (name : String)
    (hname : name ∈ ["system", "plugin", "layout", "loader"]) :
    (laidIn d (Path.ofString path)).Sectioned name ∧
      texts ((laidIn d (Path.ofString path)).sectionAt name) =
        texts (merge ((exampleIn d (Path.ofString path)).sectionAt name)
          ((entriesIn d (Path.ofString path)).sectionAt name)) :=
  sectioned_laidIn (h.example_.sectioned name hname) (h.own.sectioned name hname)

theorem eq_readApp (h : Legible d path) (henv : env.Silent)
    (hread : (App.ofFile d env path).2 = .ok a) :
    a = (readApp (laidIn d (Path.ofString path))).1 := by
  obtain ⟨hunder, -⟩ := ofFile_accepted h.holds hread
  rw [henv.under] at hunder
  exact (Except.ok.inj hunder).symm

/-- **Each setting has the value of the uppermost file that gives it.** -/
theorem get (h : Legible d path) (henv : env.Silent) (hread : (App.ofFile d env path).2 = .ok a) :
    ∀ x ∈ settings, x.get a = some (((x.given? (entriesIn d (Path.ofString path))).or
      (x.given? (exampleIn d (Path.ofString path)))).getD x.default) := by
  intro x hx
  have hsection := settings_section x hx
  rw [h.eq_readApp henv hread, get_readApp (textsOnce_laidIn d _) (fun name hname =>
    (h.sectioned name hname).1) x hx, (h.sectioned _ hsection).2,
    lastUnder_merge ((sectionsOnce_exampleIn d _).sectionAt _)
      ((sectionsOnce_entriesIn d _).sectionAt _) (h.example_.once x hx) (h.own.once x hx)
      (h.plain x hx)]
  rfl

/-- Four sections were read. -/
theorem whole (h : Legible d path) (henv : env.Silent)
    (hread : (App.ofFile d env path).2 = .ok a) : a.Whole := by
  have hthere (name : String) (hname : name ∈ ["system", "plugin", "layout", "loader"]) :
      ¬ Displaced (laidIn d (Path.ofString path)) name := by
    rintro ⟨v, hv, hnone⟩
    obtain ⟨fs, rfl⟩ := (h.sectioned name hname).1 v hv
    cases fs <;> cases hnone
  rw [h.eq_readApp henv hread, readApp_whole_iff (textsOnce_laidIn d _)]
  refine ⟨hthere "layout" (by simp), fun name hname => hthere name ?_⟩
  simp only [List.mem_cons, List.not_mem_nil, or_false] at hname ⊢
  tauto

end Legible

/-- **A configuration is layered from a file and its example.** Each setting has the value that the
file gives it, or else the example's, or else its default. Nothing else matters: files that give the
same to every setting are read as the same configuration, whatever other keys are in them. -/
theorem ofFile_layered (d : Disk) (env : Environment) (path : String) (a : App) (henv : env.Silent)
    (h : Legible d path) (hread : (App.ofFile d env path).2 = .ok a) :
    (∀ x ∈ settings, x.get a = some (((x.given? (entriesIn d (Path.ofString path))).or
      (x.given? (exampleIn d (Path.ofString path)))).getD x.default)) ∧
    ∀ d' path' a', Legible d' path' → (App.ofFile d' env path').2 = .ok a' →
      (∀ x ∈ settings, x.given? (entriesIn d' (Path.ofString path')) =
          x.given? (entriesIn d (Path.ofString path)) ∧
        x.given? (exampleIn d' (Path.ofString path')) =
          x.given? (exampleIn d (Path.ofString path))) → a' = a := by
  refine ⟨h.get henv hread, fun d' path' a' h' hread' hsame => ?_⟩
  refine App.ext_settings (h'.whole henv hread') (h.whole henv hread) fun x hx => ?_
  obtain ⟨hown, hexample⟩ := hsame x hx
  rw [h'.get henv hread' x hx, h.get henv hread x hx, hown, hexample]

/-- A file beside an example that spells the style otherwise. -/
def twoSpellings : Disk where
  files := [(["config.yaml"], "plugin: {stickerStyle: b}".toUTF8),
    ([exampleName], "plugin: {sticker_style: s, sticker_config_url: u}".toUTF8)]

/-- The same with a key that names nothing. -/
def strayKey : Disk where
  files := [(["config.yaml"], "plugin: {x: x, stickerStyle: b}".toUTF8),
    ([exampleName], "plugin: {sticker_style: s, sticker_config_url: u}".toUTF8)]

/-- What a file gives a setting, as a text if it is one. -/
def Setting.text? (x : Setting) (es : Entries) : Option (Option String) :=
  (x.given? es).map Value.text?

theorem Setting.given?_of_text? {x : Setting} {s : String} (h : x.text? es = some (some s)) :
    x.given? es = some (.text s) := by
  obtain ⟨v, hgiven, hv⟩ := Option.map_eq_some_iff.mp h
  rw [hgiven]
  unfold Value.text? at hv
  split at hv
  · cases hv
    rfl
  · cases hv

theorem Setting.given?_congr {x : Setting} (h : x.text? es = x.text? os)
    (htext : x.text? os ≠ some none) : x.given? es = x.given? os := by
  cases hos : x.text? os with
  | none =>
      rw [hos] at h
      rw [Option.map_eq_none_iff.mp h, Option.map_eq_none_iff.mp hos]
  | some t =>
      cases t with
      | none => exact absurd hos htext
      | some s =>
          rw [hos] at h
          rw [given?_of_text? h, given?_of_text? hos]

/-- The file's style counts under the name it has there, the address comes from the example, and a
key that names nothing changes nothing. -/
theorem ofFile_layered_twoSpellings :
    Environment.Silent [] ∧ Legible twoSpellings "config.yaml" ∧ Legible strayKey "config.yaml" ∧
      ∃ a, (App.ofFile twoSpellings [] "config.yaml").2 = .ok a ∧
        (App.ofFile strayKey [] "config.yaml").2 = .ok a ∧
        a.plugin.section?.map (·.stickerStyle) = some (.text "b") ∧
        a.plugin.section?.map (·.configUrl) = some (.text "u") := by
  have hsilent : Environment.Silent [] := ⟨rfl, rfl⟩
  have hfiles : (Legible twoSpellings "config.yaml" ∧ Legible strayKey "config.yaml") ∧
      ((App.ofFile twoSpellings [] "config.yaml").2.isOk = true ∧
        (App.ofFile strayKey [] "config.yaml").2.isOk = true) ∧
      ∀ x ∈ settings,
        (x.text? (entriesIn strayKey (Path.ofString "config.yaml")) =
            x.text? (entriesIn twoSpellings (Path.ofString "config.yaml")) ∧
          x.text? (entriesIn twoSpellings (Path.ofString "config.yaml")) ≠ some none) ∧
        (x.text? (exampleIn strayKey (Path.ofString "config.yaml")) =
            x.text? (exampleIn twoSpellings (Path.ofString "config.yaml")) ∧
          x.text? (exampleIn twoSpellings (Path.ofString "config.yaml")) ≠ some none) := by
    decide +kernel
  have hgiven : settings[9].text? (entriesIn twoSpellings (Path.ofString "config.yaml")) =
        some (some "b") ∧
      (settings[4].text? (entriesIn twoSpellings (Path.ofString "config.yaml")) = none ∧
        settings[4].text? (exampleIn twoSpellings (Path.ofString "config.yaml")) =
          some (some "u")) := by
    decide +kernel
  obtain ⟨⟨htwo, hstray⟩, ⟨hoktwo, hokstray⟩, hsame⟩ := hfiles
  obtain ⟨hstyle, hnourl, hurl⟩ := hgiven
  cases ha : (App.ofFile twoSpellings [] "config.yaml").2 with
  | error f => rw [ha] at hoktwo; cases hoktwo
  | ok a =>
      cases hb : (App.ofFile strayKey [] "config.yaml").2 with
      | error f => rw [hb] at hokstray; cases hokstray
      | ok b =>
          obtain ⟨hget, hother⟩ := ofFile_layered twoSpellings [] "config.yaml" a hsilent htwo ha
          obtain rfl : b = a := hother strayKey "config.yaml" b hstray hb fun x hx =>
            ⟨Setting.given?_congr (hsame x hx).1.1 (hsame x hx).1.2,
              Setting.given?_congr (hsame x hx).2.1 (hsame x hx).2.2⟩
          refine ⟨hsilent, htwo, hstray, b, rfl, rfl, ?_, ?_⟩
          · have hset := hget settings[9] (List.getElem_mem _)
            rwa [Setting.given?_of_text? hstyle] at hset
          · have hset := hget settings[4] (List.getElem_mem _)
            rwa [Option.map_eq_none_iff.mp hnourl, Setting.given?_of_text? hurl] at hset

end StickerPages.Settings
