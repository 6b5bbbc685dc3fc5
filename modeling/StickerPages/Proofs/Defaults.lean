import StickerPages.Proofs.Keeping
import StickerPages.Proofs.Paths
import StickerPages.Proofs.Sections

/-!
# A file over its example, twice

A keeper gives a configuration file as a map or as a configuration, and lays it over the example
beside it both times. The two ways do not look for the example alike: one writes the path out first,
the other takes the name beside the file as it is written. They do not take a bad example alike
either. Still they find the same example wherever there is a file (`withExample_eq_map`), and so the
configuration is the one that is in the map.

Where there is no file the two part: the map is the example's, and the configuration is the default
one and knows nothing of the example.
-/

namespace StickerPages.Settings

variable {d : Disk} {e : Environment} {path : String} {p : Path}

/-! ## The environment's silence -/

/-- The environment says nothing. -/
structure Environment.Silent (e : Environment) : Prop where
  url : e.valueOf? "STICKER_CONFIG_URL" = none
  level : e.valueOf? "STICKER_LOG_LEVEL" = none

theorem Environment.Silent.under (h : e.Silent) (a : App) : a.under e = .ok a := by
  rw [App.under, h.url, h.level]
  rfl

theorem Environment.Silent.default (h : e.Silent) : App.default e = {} := by
  rw [App.default, h.under]

/-! ## The example -/

theorem readText_congr {q : Path} (h : d.locate p = d.locate q) : d.readText p = d.readText q := by
  rw [Disk.readText, h, Disk.readText]

theorem holds_congr {q : Path} (h : d.locate p = d.locate q) : d.holds p = d.holds q := by
  rw [Disk.holds, h, Disk.holds]

theorem readData_congr {q : Path} (h : d.locate p = d.locate q) : readData d p = readData d q := by
  rw [readData, readText_congr h, readData]

/-- The example beside a file that lies in a folder. -/
theorem exampleBeside?_of_lies {folder : List String} {name : String} (h : d.Lies p folder name) :
    Keeper.exampleBeside? p =
      if exampleName = name then none else some (folder ++ [exampleName]) := by
  unfold Keeper.exampleBeside?
  rw [h.writtenOut]
  dsimp only [Option.bind_eq_bind, Option.bind_some]
  rw [if_neg (by simp), List.dropLast_concat]
  by_cases hname : exampleName = name
  · rw [if_pos hname, if_pos (by simp [hname])]
  · rw [if_neg hname, if_neg (by simp [hname])]

theorem readEntries_congr {q : Path} (h : d.locate p = d.locate q) :
    Keeper.readEntries d p = Keeper.readEntries d q := by
  unfold Keeper.readEntries
  rw [holds_congr h, readData_congr h]

/-- The defaults for a file that lies in a folder are the map of the example there, if that is
another file and can be read. -/
theorem defaults_of_lies {folder : List String} {name : String} (h : d.Lies p folder name) :
    (Keeper.defaults d p).1 =
      if exampleName = name then []
      else (Keeper.readEntries d (p.parent.child exampleName)).toOption.getD [] := by
  obtain ⟨hbeside, -, hinside⟩ := h.beside exampleName (by decide)
  have hsame := readEntries_congr (hinside.trans hbeside.symm)
  unfold Keeper.defaults
  rw [exampleBeside?_of_lies h]
  by_cases hname : exampleName = name
  · rw [if_pos hname, if_pos hname]
  · rw [if_neg hname, if_neg hname, ← hsame]
    dsimp only
    cases Keeper.readEntries d ⟨false, folder ++ [exampleName]⟩ <;> rfl

/-- What comes of laying data over an example is a map only if both the data and what was laid over
are maps, and then the two are merged. -/
theorem overExample_eq_map {base data : Value} {fs : Entries}
    (h : overExample base data = .map fs) :
    ∃ own, data = .map own ∧
      fs = match (base : Value) with
        | .map es => merge es own
        | _ => own := by
  cases data with
  | map own =>
      refine ⟨own, rfl, ?_⟩
      cases base <;> exact (Value.map.inj h).symm
  | _ => cases base <;> cases h

/-- **Both ways find the same example.** The one way lays the data over the example only if there is
one beside it that is a map; for the other the defaults are empty without such an example. -/
theorem withExample_eq_map {text : String} {data : Value} {fs : Entries} {log : Log}
    (htext : d.readText p = .ok text) (h : withExample d p data = (log, .ok (.map fs))) :
    ∃ own, data = .map own ∧
      (fs = merge (Keeper.defaults d p).1 own ∨ fs = own ∧ (Keeper.defaults d p).1 = []) := by
  obtain ⟨folder, name, hlies⟩ := d.exists_lies htext
  have hout := (hlies.beside exampleName (by decide)).2.1
  rw [defaults_of_lies hlies]
  unfold withExample at h
  dsimp only at h
  rw [hout, hlies.writtenOut] at h
  by_cases hname : exampleName = name
  · rw [if_neg (by simp [hname])] at h
    cases h
    exact ⟨fs, rfl, .inr ⟨rfl, if_pos hname⟩⟩
  · rw [if_neg hname]
    unfold Keeper.readEntries
    cases hholds : d.holds (p.parent.child exampleName) with
    | false =>
        rw [if_neg (by simp [hholds])] at h
        cases h
        exact ⟨fs, rfl, .inr ⟨rfl, rfl⟩⟩
    | true =>
        rw [if_pos (by simp [hholds, hname])] at h
        rw [if_neg (by simp)]
        cases hread : readData d (p.parent.child exampleName) with
        | ok base =>
            rw [hread] at h
            obtain ⟨own, rfl, hfs⟩ := overExample_eq_map (Except.ok.inj (congrArg Prod.snd h))
            refine ⟨own, rfl, ?_⟩
            cases base with
            | map es => exact .inl hfs
            | _ => exact .inr ⟨hfs, rfl⟩
        | error f =>
            rw [hread] at h
            dsimp only at h
            split at h
            · cases h
              exact ⟨fs, rfl, .inr ⟨rfl, rfl⟩⟩
            · cases h

/-! ## Both forms -/

theorem readChecked_ok {data : Value} {a : App} (h : (readChecked e data).2 = .ok a) :
    ∃ fs, data = .map fs ∧ (readApp fs).1.under e = .ok a := by
  unfold readChecked at h
  split at h
  · cases h
  · cases data with
    | map fs => exact ⟨fs, rfl, h⟩
    | _ => cases h

theorem exists_readText {data : Value} (h : readData d p = .ok data) :
    ∃ text, d.readText p = .ok text := by
  unfold readData at h
  obtain ⟨text, htext, -⟩ := bind_eq_ok.mp h
  cases hread : d.readText p with
  | ok text => exact ⟨text, rfl⟩
  | error f =>
      rw [hread] at htext
      cases htext

/-- The map of a file that is there. -/
theorem readMap_fst {own : Entries} (hholds : d.holds (Path.ofString path) = true)
    (h : readData d (Path.ofString path) = .ok (.map own)) :
    (Keeper.readMap d path).1 = merge (Keeper.defaults d (Path.ofString path)).1 own := by
  have hentries : Keeper.readEntries d (Path.ofString path) = .ok own := by
    unfold Keeper.readEntries
    rw [if_neg (by simp [hholds]), h]
  unfold Keeper.readMap
  dsimp only
  rw [hentries]

/-- Without a file there are the defaults. -/
theorem readMap_fst_of_absent (habsent : d.holds (Path.ofString path) = false) :
    (Keeper.readMap d path).1 = (Keeper.defaults d (Path.ofString path)).1 := by
  have hentries : Keeper.readEntries d (Path.ofString path) = .ok [] := by
    unfold Keeper.readEntries
    rw [if_pos (by simp [habsent])]
  unfold Keeper.readMap
  dsimp only
  rw [hentries]
  exact merge.eq_1 _

/-- **A configuration that was read from a file is the one in the map.** -/
theorem ofFile_ok {a : App} {log : Log} (hholds : d.holds (Path.ofString path) = true)
    (h : App.ofFile d e path = (log, .ok a)) :
    (readApp (Keeper.readMap d path).1).1.under e = .ok a := by
  unfold App.ofFile at h
  dsimp only at h
  rw [if_neg (by simp [hholds])] at h
  cases hread : readData d (Path.ofString path) with
  | error f =>
      rw [hread] at h
      cases h
  | ok data =>
      rw [hread] at h
      dsimp only at h
      rcases hlaid : withExample d (Path.ofString path) data with ⟨log', laid⟩
      rw [hlaid] at h
      cases laid with
      | error f => cases h
      | ok laid =>
          obtain ⟨fs, rfl, hunder⟩ := readChecked_ok (congrArg Prod.snd h)
          obtain ⟨text, htext⟩ := exists_readText hread
          obtain ⟨own, rfl, hfs⟩ := withExample_eq_map htext hlaid
          rw [readMap_fst hholds hread]
          rcases hfs with rfl | ⟨rfl, hnone⟩
          · exact hunder
          · rwa [hnone, readApp_merge_nil (textsOnce_readData hread)]

/-- A new keeper that reports no error gives the configuration of the file. -/
theorem ofFile_of_no_error
    (h : ∀ r ∈ ((Keeper.starting d e).loadApp path false).1.log, r.level ≠ .error) :
    ∃ log, App.ofFile d e path =
      (log, .ok ((Keeper.starting d e).loadApp path false).2.value) := by
  have hlog : ((Keeper.starting d e).loadApp path false).1.log =
      (Keeper.appOrDefault d e path).2 := rfl
  have hvalue : ((Keeper.starting d e).loadApp path false).2.value =
      (Keeper.appOrDefault d e path).1 := rfl
  rw [hlog] at h
  rw [hvalue]
  unfold Keeper.appOrDefault at h ⊢
  rcases hfile : App.ofFile d e path with ⟨log, f | a⟩
  · rw [hfile] at h
    exact absurd rfl (h ⟨.error, _⟩ (List.mem_append_right _ List.mem_cons_self))
  · exact ⟨log, rfl⟩

/-- **The two forms of a configuration agree wherever there is a file.** A new keeper that reports
no error gives the configuration that is in its map of the file. Where there is no file the two
part: the configuration is the default one, and the map is the example's. -/
theorem loadApp_agrees (d : Disk) (e : Environment) (path : String) (he : e.Silent)
    (hfine : ∀ r ∈ ((Keeper.starting d e).loadApp path false).1.log, r.level ≠ .error) :
    let typed := ((Keeper.starting d e).loadApp path false).2.value
    let map := ((Keeper.starting d e).load path).2.value
    (d.holds (Path.ofString path) = true → (App.ofValue e (.map map)).2 = .ok (.inl typed)) ∧
      (d.holds (Path.ofString path) = false →
        typed = {} ∧ map = (Keeper.defaults d (Path.ofString path)).1) := by
  obtain ⟨log, hfile⟩ := ofFile_of_no_error hfine
  intro typed map
  have hmap : map = (Keeper.readMap d path).1 := rfl
  constructor
  · intro hholds
    have hunder := ofFile_ok hholds hfile
    rw [← hmap] at hunder
    show ((readApp map).1.under e).map Sum.inl = _
    rw [hunder]
    rfl
  · intro habsent
    refine ⟨?_, hmap.trans (readMap_fst_of_absent habsent)⟩
    unfold App.ofFile at hfile
    dsimp only at hfile
    rw [if_pos (by simp [habsent]), he.default] at hfile
    exact (Except.ok.inj (congrArg Prod.snd hfile)).symm

/-- A file beside its example. -/
def besideExample : Disk where
  files := [(["config.yaml"], "layout: {debounce_ms: 2}".toUTF8),
    ([exampleName], "layout: {solo_max_size: 9px}".toUTF8)]

theorem loadApp_agrees_besideExample :
    Environment.Silent [] ∧ besideExample.holds (Path.ofString "config.yaml") = true ∧
      (App.ofValue [] (.map ((Keeper.starting besideExample []).load "config.yaml").2.value)).2 =
        .ok (.inl ((Keeper.starting besideExample []).loadApp "config.yaml" false).2.value) :=
  have hsilent : Environment.Silent [] := ⟨rfl, rfl⟩
  have hholds : besideExample.holds (Path.ofString "config.yaml") = true := by decide +kernel
  ⟨hsilent, hholds,
    (loadApp_agrees besideExample [] "config.yaml" hsilent (by decide +kernel)).1 hholds⟩

/-- An example without a file beside it. -/
def onlyExample : Disk where
  files := [([exampleName], "layout: {debounce_ms: 1}".toUTF8)]

/-- The delay that a configuration sets, if it is a whole number. -/
def App.delay? (a : App) : Option Int := a.layout.section?.bind (·.debounceMs.whole?)

/-- The map of a file that is not there has the example's delay, and the configuration has not. -/
theorem loadApp_differs :
    ¬ ∀ (d : Disk) (e : Environment) (path : String), e.Silent →
      (∀ r ∈ ((Keeper.starting d e).loadApp path false).1.log, r.level ≠ .error) →
      (App.ofValue e (.map ((Keeper.starting d e).load path).2.value)).2 =
        .ok (.inl ((Keeper.starting d e).loadApp path false).2.value) := by
  intro h
  have hsame := h onlyExample [] "config.yaml" ⟨rfl, rfl⟩ (by decide +kernel)
  have hmap : (readApp ((Keeper.starting onlyExample []).load "config.yaml").2.value).1.delay? =
      some 1 := by decide +kernel
  have htyped : ((Keeper.starting onlyExample []).loadApp "config.yaml" false).2.value.delay? =
      some 100 := by decide +kernel
  have hdelay : (readApp ((Keeper.starting onlyExample []).load "config.yaml").2.value).1.delay? =
      ((Keeper.starting onlyExample []).loadApp "config.yaml" false).2.value.delay? :=
    congrArg App.delay? (Sum.inl.inj (Except.ok.inj hsame))
  rw [hmap, htyped] at hdelay
  cases hdelay

end StickerPages.Settings
