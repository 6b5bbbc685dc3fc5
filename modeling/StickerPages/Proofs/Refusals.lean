import StickerPages.Proofs.Sections

/-!
# Refusing a configuration

Reading a configuration file promises a configuration whose four portions are sections, or else a
fault that says what is wrong with the configuration (`Candid`). The checks keep the promise for
what they look at, and they do not look at everything:

* a file that is there and can be opened may hold what is no text, or no data;
* the example beside it may hold the same, and the fault is then that of a file that is fine;
* the delays may be something that has no items to go through;
* in the place of a section other than the layout may stand something else.

`Slips` is this list, and `ofFile_candid` says that there is nothing else. An example that counts as
unreadable, on the other hand, is as good as none.
-/

namespace StickerPages.Settings

open Entries

variable {d : Disk} {env : Environment} {p : Path} {own data : Value} {es : Entries}

/-! ## The promise -/

/-- The fault says what is wrong with the configuration. The others are accidents of its reading. -/
def Fault.isConfiguration : Fault → Bool
  | .notMap | .layoutNotMap | .badDebounce _ | .badDelay _ | .unreadable _ _ => true
  | .delaysNotListed _ | .sectionNotMap | .unfit _ => false

/-- Every portion is a section. -/
structure App.Whole (a : App) : Prop where
  system : a.system.section?.isSome = true
  plugin : a.plugin.section?.isSome = true
  layout : a.layout.section?.isSome = true
  loader : a.loader.section?.isSome = true

theorem App.whole_iff (a : App) :
    a.Whole ↔ a.system.section?.isSome = true ∧ a.plugin.section?.isSome = true ∧
      a.layout.section?.isSome = true ∧ a.loader.section?.isSome = true :=
  ⟨fun h => ⟨h.1, h.2, h.3, h.4⟩, fun ⟨h1, h2, h3, h4⟩ => ⟨h1, h2, h3, h4⟩⟩

instance (a : App) : Decidable a.Whole := decidable_of_iff _ a.whole_iff.symm

/-- The answer is a whole configuration, or says what is wrong with it. -/
def Candid : Except Fault App → Prop
  | .ok a => a.Whole
  | .error f => f.isConfiguration = true

instance : (r : Except Fault App) → Decidable (Candid r)
  | .ok a => inferInstanceAs (Decidable a.Whole)
  | .error f => inferInstanceAs (Decidable (f.isConfiguration = true))

/-! ## Section by section -/

/-- The section that comes of what stands under its name, if anything does. -/
def portionOf (σ : Type) [Section σ] (v : Option Value) : Portion σ :=
  (v.map fun v => (readPortion σ v).1).getD (.section Section.default)

/-- Where each name occurs once, the entry under a section's name makes the section. -/
theorem foldl_readText {σ : Type} [Section σ] {name : String} {get : App → Portion σ}
    (hself : ∀ a v, get (readText a (name, v)) = (readPortion σ v).1)
    (hother : ∀ a n v, n ≠ name → get (readText a (n, v)) = get a) (ws : List (String × Value)) :
    ∀ a : App, (ws.map (·.1)).Nodup → get (ws.foldl readText a) =
      ((ws.lookup name).map fun v => (readPortion σ v).1).getD (get a) := by
  induction ws with
  | nil => exact fun _ _ => rfl
  | cons w r ih =>
      intro a hd
      obtain ⟨n, v⟩ := w
      obtain ⟨hn, hd⟩ := List.nodup_cons.mp hd
      rw [List.foldl_cons, ih _ hd, List.lookup_cons]
      by_cases heq : n = name
      · subst heq
        have hrest : r.lookup n = none := by
          rw [List.lookup_eq_none_iff]
          intro e he
          rw [bne_iff_ne]
          rintro rfl
          exact hn (List.mem_map.mpr ⟨e, he, rfl⟩)
        simp [hrest, hself]
      · have hbeq : (name == n) = false := by simpa using Ne.symm heq
        simp only [hbeq, hother a n v heq]

theorem readText_eq (a : App) (n : String) (v : Value) : readText a (n, v) =
    { system := if n = "system" then (readPortion System v).1 else a.system,
      plugin := if n = "plugin" then (readPortion Plugin v).1 else a.plugin,
      layout := if n = "layout" then (readPortion Layout v).1 else a.layout,
      loader := if n = "loader" then (readPortion Loader v).1 else a.loader } := by
  unfold readText readEntry
  dsimp only
  split <;> simp_all

/-- **A configuration section by section.** -/
theorem readApp_portions (h : es.TextsOnce) : (readApp es).1 =
    { system := portionOf System (es.at? "system"), plugin := portionOf Plugin (es.at? "plugin"),
      layout := portionOf Layout (es.at? "layout"),
      loader := portionOf Loader (es.at? "loader") } := by
  have hsystem : (es.texts.foldl readText {}).system =
      portionOf System (es.texts.lookup "system") :=
    foldl_readText (fun _ _ => rfl) (fun a n v hn => by rw [readText_eq]; exact if_neg hn) _ _ h
  have hplugin : (es.texts.foldl readText {}).plugin =
      portionOf Plugin (es.texts.lookup "plugin") :=
    foldl_readText (fun _ _ => rfl) (fun a n v hn => by rw [readText_eq]; exact if_neg hn) _ _ h
  have hlayout : (es.texts.foldl readText {}).layout =
      portionOf Layout (es.texts.lookup "layout") :=
    foldl_readText (fun _ _ => rfl) (fun a n v hn => by rw [readText_eq]; exact if_neg hn) _ _ h
  have hloader : (es.texts.foldl readText {}).loader =
      portionOf Loader (es.texts.lookup "loader") :=
    foldl_readText (fun _ _ => rfl) (fun a n v hn => by rw [readText_eq]; exact if_neg hn) _ _ h
  simp only [at?_eq]
  rw [readApp_eq, ← hsystem, ← hplugin, ← hlayout, ← hloader]

/-- Something else than a section stands under the name of one. -/
def Displaced (es : Entries) (name : String) : Prop :=
  ∃ v, es.at? name = some v ∧ sectionEntries? v = none

theorem portionOf_isSome_iff {σ : Type} [Section σ] {name : String} :
    (portionOf σ (es.at? name)).section?.isSome = true ↔ ¬ Displaced es name := by
  unfold Displaced portionOf readPortion
  cases es.at? name with
  | none => simp [Portion.section?]
  | some v => cases hv : sectionEntries? v <;> simp [Portion.section?, hv]

theorem readApp_whole_iff (h : es.TextsOnce) : (readApp es).1.Whole ↔
    ¬ Displaced es "layout" ∧ ∀ name ∈ ["system", "plugin", "loader"], ¬ Displaced es name := by
  rw [App.whole_iff, readApp_portions h]
  simp only [portionOf_isSome_iff, List.forall_mem_cons, List.not_mem_nil, false_implies,
    implies_true, and_true]
  tauto

/-- The environment writes into sections only, and takes nothing for one that is none. -/
theorem candid_under (env : Environment) (a : App) : Candid (a.under env) ↔ a.Whole := by
  obtain ⟨system, plugin, layout, loader⟩ := a
  unfold App.under
  cases env.valueOf? "STICKER_CONFIG_URL" <;> cases env.valueOf? "STICKER_LOG_LEVEL" <;>
    cases plugin <;> cases system <;>
    simp [App.whole_iff, Candid, Portion.update, Portion.section?, Fault.isConfiguration, pure,
      Except.pure]

theorem candid_default (env : Environment) : Candid (.ok (App.default env)) := by
  have hwhole : Candid (App.under env {}) := (candid_under env {}).mpr ⟨rfl, rfl, rfl, rfl⟩
  unfold App.default
  cases hunder : App.under env {} with
  | ok a => rwa [hunder] at hwhole
  | error f => exact ⟨rfl, rfl, rfl, rfl⟩

/-! ## The check -/

/-- What stands in the place of the layout section. -/
def layoutOf? (es : Entries) : Option Entries := sectionEntries? ((es.at? "layout").getD .null)

/-- The waiting time that a layout section sets. -/
def debounceOf (layout : Entries) : Value := (layout.at? "debounce_ms").getD (.int 100)

/-- The delays that a layout section sets. -/
def delaysOf (layout : Entries) : Value := (layout.at? "delayed_sweeps_ms").getD .null

/-- The layout section is one, and its times are numbers. -/
structure Timed (es layout : Entries) (delays : List Value) : Prop where
  section_eq : layoutOf? es = some layout
  debounce : isMillis 1 (debounceOf layout) = true
  items : itemsOf? (delaysOf layout) = some delays
  delays : ∀ d ∈ delays, isMillis 0 d = true

/-- The layout section is one, and its delays cannot be gone through. -/
structure Unlisted (es layout : Entries) : Prop where
  section_eq : layoutOf? es = some layout
  debounce : isMillis 1 (debounceOf layout) = true
  items : itemsOf? (delaysOf layout) = none

theorem checkLayout_eq (layout : Entries) : checkLayout layout =
    if isMillis 1 (debounceOf layout) then
      match itemsOf? (delaysOf layout) with
      | none => .error (.delaysNotListed (delaysOf layout).kindName)
      | some delays =>
        match delays.find? fun d => !isMillis 0 d with
        | some d => .error (.badDelay d)
        | none => .ok ()
    else .error (.badDebounce (debounceOf layout)) := by
  unfold checkLayout debounceOf delaysOf
  dsimp only
  cases isMillis 1 ((layout.at? "debounce_ms").getD (.int 100)) <;> rfl

theorem checkLayout_ok_iff {layout : Entries} : checkLayout layout = .ok () ↔
    isMillis 1 (debounceOf layout) = true ∧ ∃ delays, itemsOf? (delaysOf layout) = some delays ∧
      ∀ d ∈ delays, isMillis 0 d = true := by
  rw [checkLayout_eq]
  cases isMillis 1 (debounceOf layout) with
  | false => simp
  | true =>
      rw [if_pos rfl]
      cases itemsOf? (delaysOf layout) with
      | none => simp
      | some delays =>
          have hfind : (delays.find? fun d => !isMillis 0 d) = none ↔
              ∀ d ∈ delays, isMillis 0 d = true := by simp
          dsimp only
          cases hd : delays.find? fun d => !isMillis 0 d with
          | none => simpa using hfind.mp hd
          | some d => rw [hd] at hfind; simpa using hfind

/-- Delays without items are the one thing at which the check itself strays. -/
theorem checkLayout_stray_iff {layout : Entries} :
    (∃ f, checkLayout layout = .error f ∧ f.isConfiguration = false) ↔
      isMillis 1 (debounceOf layout) = true ∧ itemsOf? (delaysOf layout) = none := by
  rw [checkLayout_eq]
  cases isMillis 1 (debounceOf layout) with
  | false => simp [Fault.isConfiguration]
  | true =>
      rw [if_pos rfl]
      cases itemsOf? (delaysOf layout) with
      | none => simp [Fault.isConfiguration]
      | some delays =>
          dsimp only
          cases delays.find? fun d => !isMillis 0 d <;> simp [Fault.isConfiguration]

theorem check_map (es : Entries) : check (.map es) =
    match layoutOf? es with
    | none => .error .layoutNotMap
    | some layout =>
      (checkLayout layout).map fun _ => if namesSource es then [] else [noSource] := by
  unfold check layoutOf?
  dsimp only
  cases sectionEntries? ((es.at? "layout").getD .null) with
  | none => rfl
  | some layout => cases checkLayout layout <;> rfl

theorem check_ok_iff :
    (∃ log, check (.map es) = .ok log) ↔ ∃ layout delays, Timed es layout delays := by
  rw [check_map]
  constructor
  · rintro ⟨log, h⟩
    cases hlayout : layoutOf? es with
    | none => rw [hlayout] at h; cases h
    | some layout =>
        rw [hlayout] at h
        cases hcheck : checkLayout layout with
        | error f => simp [hcheck, Except.map] at h
        | ok u =>
            obtain ⟨hdebounce, delays, hitems, hdelays⟩ := checkLayout_ok_iff.mp hcheck
            exact ⟨layout, delays, hlayout, hdebounce, hitems, hdelays⟩
  · rintro ⟨layout, delays, h⟩
    have hcheck := checkLayout_ok_iff.mpr ⟨h.debounce, delays, h.items, h.delays⟩
    simp [h.section_eq, hcheck, Except.map]

theorem check_stray_iff :
    (∃ f, check (.map es) = .error f ∧ f.isConfiguration = false) ↔
      ∃ layout, Unlisted es layout := by
  rw [check_map]
  constructor
  · rintro ⟨f, h, hf⟩
    cases hlayout : layoutOf? es with
    | none =>
        rw [hlayout] at h
        cases h
        cases hf
    | some layout =>
        rw [hlayout] at h
        cases hcheck : checkLayout layout with
        | ok u => simp [hcheck, Except.map] at h
        | error g =>
            obtain rfl : g = f := by simpa [hcheck, Except.map] using h
            obtain ⟨hdebounce, hitems⟩ := checkLayout_stray_iff.mp ⟨g, hcheck, hf⟩
            exact ⟨layout, hlayout, hdebounce, hitems⟩
  · rintro ⟨layout, h⟩
    obtain ⟨f, hcheck, hf⟩ := checkLayout_stray_iff.mpr ⟨h.debounce, h.items⟩
    exact ⟨f, by simp [h.section_eq, hcheck, Except.map], hf⟩

/-- A section that passed the check is one. -/
theorem Timed.not_displaced {layout : Entries} {delays : List Value}
    (h : Timed es layout delays) : ¬ Displaced es "layout" := by
  rintro ⟨v, hv, hnone⟩
  have hsection := h.section_eq
  rw [layoutOf?, hv, Option.getD_some, hnone] at hsection
  cases hsection

/-! ## Checking and reading -/

/-- What gets past the checks in data: delays without items, and another thing in the place of a
section that is not looked at. -/
inductive Unchecked (es : Entries) : Prop
  | delays {layout : Entries} (h : Unlisted es layout)
  | portion {layout : Entries} {delays : List Value} {name : String} (h : Timed es layout delays)
      (hname : name ∈ ["system", "plugin", "loader"]) (hother : Displaced es name)

theorem candid_readChecked (env : Environment) (h : es.TextsOnce) :
    Candid (readChecked env (.map es)).2 ↔ ¬ Unchecked es := by
  unfold readChecked
  -- a failed check strays at the delays only; after a passed one, the portions decide
  cases hcheck : check (.map es) with
  | error f =>
      constructor
      · rintro hf (⟨hdelays⟩ | ⟨htimed, -, -⟩)
        · obtain ⟨g, hg, hstray⟩ := check_stray_iff.mpr ⟨_, hdelays⟩
          obtain rfl : f = g := Except.error.inj (hcheck.symm.trans hg)
          exact absurd (show f.isConfiguration = true from hf) (by simp [hstray])
        · obtain ⟨log, hlog⟩ := check_ok_iff.mpr ⟨_, _, htimed⟩
          cases hcheck.symm.trans hlog
      · intro hfine
        rw [Candid, ← Bool.not_eq_false]
        intro hstray
        obtain ⟨layout, hdelays⟩ := check_stray_iff.mp ⟨f, hcheck, hstray⟩
        exact hfine (.delays hdelays)
  | ok log =>
      obtain ⟨layout, delays, htimed⟩ := check_ok_iff.mp ⟨log, hcheck⟩
      dsimp only
      rw [candid_under, readApp_whole_iff h]
      constructor
      · rintro ⟨-, hportions⟩ (⟨hdelays⟩ | ⟨-, hname, hother⟩)
        · obtain ⟨f, hf, -⟩ := check_stray_iff.mpr ⟨_, hdelays⟩
          cases hcheck.symm.trans hf
        · exact hportions _ hname hother
      · exact fun hfine =>
          ⟨htimed.not_displaced, fun name hname hother => hfine (.portion htimed hname hother)⟩

/-- Data that is no map is always refused as such. -/
theorem candid_readChecked_other (env : Environment) (h : ∀ es, data ≠ .map es) :
    Candid (readChecked env data).2 := by
  cases data with
  | map es => exact absurd rfl (h es)
  | _ => exact rfl

/-! ## A file and its example -/

/-- The example beside a file. -/
def exampleOf (p : Path) : Path := p.parent.child exampleName

/-- There is an example beside the file, and it is not the file itself. -/
def HasExample (d : Disk) (p : Path) : Prop :=
  d.holds (exampleOf p) = true ∧ (exampleOf p).writtenOut? ≠ p.writtenOut?

/-- What the data of a file comes to beside the example. -/
inductive Laid (d : Disk) (p : Path) (own : Value) : Value → Prop
  | alone (h : ¬ HasExample d p) : Laid d p own own
  | unread {f : FileFault} (h : HasExample d p) (hread : readData d (exampleOf p) = .error f)
      (hf : f.isUnreadable = true) : Laid d p own own
  | onTop {base : Value} (h : HasExample d p) (hread : readData d (exampleOf p) = .ok base) :
      Laid d p own (overExample base own)

instance (d : Disk) (p : Path) : Decidable (HasExample d p) :=
  inferInstanceAs (Decidable (_ ∧ _))

/-- The example holds what does not even count as unreadable. -/
structure Blighted (d : Disk) (p : Path) (f : FileFault) : Prop where
  example_ : HasExample d p
  read : readData d (exampleOf p) = .error f
  unfit : f.isUnreadable = false

theorem hasExample_iff : (d.holds (exampleOf p) &&
    ((exampleOf p).writtenOut? != p.writtenOut?)) = true ↔ HasExample d p := by
  simp [HasExample]

theorem withExample_of_not (h : ¬ HasExample d p) : (withExample d p own).2 = .ok own := by
  unfold withExample
  dsimp only
  rw [← exampleOf, if_neg (hasExample_iff.not.mpr h)]

theorem withExample_of_has (h : HasExample d p) : (withExample d p own).2 =
    match readData d (exampleOf p) with
    | .ok base => .ok (overExample base own)
    | .error f => if f.isUnreadable then .ok own else .error (.unfit f) := by
  unfold withExample
  dsimp only
  rw [← exampleOf, if_pos (hasExample_iff.mpr h)]
  cases readData d (exampleOf p) with
  | ok base => rfl
  | error f => cases hf : f.isUnreadable <;> simp [hf]

theorem withExample_ok_iff : (withExample d p own).2 = .ok data ↔ Laid d p own data := by
  by_cases hhas : HasExample d p
  · rw [withExample_of_has hhas]
    constructor
    · intro h
      cases hread : readData d (exampleOf p) with
      | ok base =>
          rw [hread] at h
          cases h
          exact .onTop hhas hread
      | error f =>
          rw [hread] at h
          dsimp only at h
          split at h
          · next hf =>
            cases h
            exact .unread hhas hread hf
          · cases h
    · rintro (hnot | ⟨-, hread, hf⟩ | ⟨-, hread⟩)
      · exact absurd hhas hnot
      · simp [hread, hf]
      · simp [hread]
  · rw [withExample_of_not hhas]
    constructor
    · rintro ⟨⟩
      exact .alone hhas
    · rintro (- | ⟨h, -, -⟩ | ⟨h, -⟩)
      · rfl
      · exact absurd h hhas
      · exact absurd h hhas

theorem withExample_error_iff {g : Fault} :
    (withExample d p own).2 = .error g ↔ ∃ f, g = .unfit f ∧ Blighted d p f := by
  by_cases hhas : HasExample d p
  · rw [withExample_of_has hhas]
    constructor
    · intro h
      cases hread : readData d (exampleOf p) with
      | ok base => rw [hread] at h; cases h
      | error f =>
          rw [hread] at h
          dsimp only at h
          split at h
          · cases h
          · next hf =>
            cases h
            exact ⟨f, rfl, hhas, hread, by simpa using hf⟩
    · rintro ⟨f, rfl, -, hread, hf⟩
      simp [hread, hf]
  · rw [withExample_of_not hhas]
    exact ⟨nofun, fun ⟨_, _, h⟩ => absurd h.example_ hhas⟩

/-! ### Keys -/

theorem textsOnce_merge (fs : Entries) :
    ∀ {es : Entries}, es.TextsOnce → (merge es fs).TextsOnce := by
  induction fs with
  | nil =>
      intro es h
      rwa [merge]
  | cons f r ih =>
      intro es h
      obtain ⟨k, v⟩ := f
      rw [merge]
      refine ih ?_
      rw [TextsOnce]
      rcases text_or k with ⟨s, rfl⟩ | hk
      · rw [texts_put_text]
        exact Pairs.nodup_keys_put h s _
      · rwa [texts_put_other es hk]

/-- Laying one file over another keeps each text in front of one entry. -/
theorem Laid.textsOnce (h : Laid d p own (.map es)) (hown : readData d p = .ok own) :
    es.TextsOnce := by
  generalize hdata : Value.map es = data at h
  cases h with
  | alone => exact textsOnce_readData (hdata ▸ hown)
  | unread => exact textsOnce_readData (hdata ▸ hown)
  | @onTop base _ hread =>
      cases base with
      | map bs =>
          cases own with
          | map fs =>
              obtain rfl : es = merge bs fs := Value.map.inj hdata
              exact textsOnce_merge fs (textsOnce_readData hread)
          | _ => cases hdata
      | _ => exact textsOnce_readData (hown.trans (congrArg Except.ok hdata.symm))

/-! ## What gets past the checks -/

/-- What gets past the checks of a file that is there. -/
inductive Slips (d : Disk) (p : Path) : Prop
  /-- The file can be opened, and holds no text, or no data. -/
  | content {f : FileFault} (hread : readData d p = .error f) (hf : f.isUnreadable = false)
  /-- The example does so, and the file is fine. -/
  | beside {own : Value} {f : FileFault} (hown : readData d p = .ok own) (h : Blighted d p f)
  /-- Something in the data, laid over the example, is not looked at. -/
  | data {own : Value} {es : Entries} (hown : readData d p = .ok own)
      (hlaid : Laid d p own (.map es)) (h : Unchecked es)

theorem ofFile_of_read {path : String} (hholds : d.holds (Path.ofString path) = true)
    (hown : readData d (Path.ofString path) = .ok own) : (App.ofFile d env path).2 =
      match (withExample d (Path.ofString path) own).2 with
      | .error f => .error f
      | .ok data => (readChecked env data).2 := by
  unfold App.ofFile
  dsimp only
  rw [if_neg (by simp [hholds]), hown]
  dsimp only
  obtain ⟨log, f | data⟩ := withExample d (Path.ofString path) own <;> rfl

theorem ofFile_of_unread {path : String} {f : FileFault}
    (hholds : d.holds (Path.ofString path) = true)
    (hread : readData d (Path.ofString path) = .error f) :
    (App.ofFile d env path).2 = .error (.ofFile path f) := by
  unfold App.ofFile
  dsimp only
  rw [if_neg (by simp [hholds]), hread]

theorem ofFile_of_absent {path : String} (habsent : d.holds (Path.ofString path) = false) :
    (App.ofFile d env path).2 = .ok (App.default env) := by
  unfold App.ofFile
  dsimp only
  rw [if_pos (by simp [habsent])]

theorem Fault.isConfiguration_ofFile (path : String) (f : FileFault) :
    (Fault.ofFile path f).isConfiguration = f.isUnreadable := by
  unfold Fault.ofFile
  cases f.isUnreadable <;> rfl

theorem candid_ofFile_iff {path : String} (hholds : d.holds (Path.ofString path) = true) :
    Candid (App.ofFile d env path).2 ↔ ¬ Slips d (Path.ofString path) := by
  cases hread : readData d (Path.ofString path) with
  | error f =>
      rw [ofFile_of_unread hholds hread, Candid, Fault.isConfiguration_ofFile]
      constructor
      · rintro hf (⟨hg, hstray⟩ | ⟨hown, -⟩ | ⟨hown, -, -⟩)
        · obtain rfl := Except.error.inj (hread.symm.trans hg)
          rw [hf] at hstray
          cases hstray
        · cases hread.symm.trans hown
        · cases hread.symm.trans hown
      · intro hfine
        rw [← Bool.not_eq_false]
        exact fun hf => hfine (.content hread hf)
  | ok own =>
      rw [ofFile_of_read hholds hread]
      cases hlaid : (withExample d (Path.ofString path) own).2 with
      | error g =>
          obtain ⟨f, rfl, hblighted⟩ := withExample_error_iff.mp hlaid
          exact ⟨nofun, fun hfine => absurd (.beside hread hblighted) hfine⟩
      | ok data =>
          dsimp only
          have hdata := withExample_ok_iff.mp hlaid
          -- what was read and laid is unique, so a slip can only be one of the data at hand
          constructor
          · rintro hcandid (⟨hg, -⟩ | ⟨hown, hblighted⟩ | ⟨hown, hsame, hslip⟩)
            · cases hread.symm.trans hg
            · cases hlaid.symm.trans (withExample_error_iff.mpr ⟨_, rfl, hblighted⟩)
            · obtain rfl := Except.ok.inj (hread.symm.trans hown)
              obtain rfl := Except.ok.inj (hlaid.symm.trans (withExample_ok_iff.mpr hsame))
              exact (candid_readChecked env (hsame.textsOnce hread)).mp hcandid hslip
          · intro hfine
            by_cases hmap : ∃ es, data = .map es
            · obtain ⟨es, rfl⟩ := hmap
              exact (candid_readChecked env (hdata.textsOnce hread)).mpr fun hslip =>
                hfine (.data hread hdata hslip)
            · exact candid_readChecked_other env fun es hes => hmap ⟨es, hes⟩

/-- An example that counts as unreadable is as good as none. -/
theorem ofFile_bare {bare : Disk} {path : String} {f : FileFault}
    (hholds : bare.holds (Path.ofString path) = d.holds (Path.ofString path))
    (hsame : readData bare (Path.ofString path) = readData d (Path.ofString path))
    (hbare : ¬ HasExample bare (Path.ofString path))
    (hread : readData d (exampleOf (Path.ofString path)) = .error f)
    (hf : f.isUnreadable = true) : (App.ofFile d env path).2 = (App.ofFile bare env path).2 := by
  cases hthere : d.holds (Path.ofString path) with
  | false => rw [ofFile_of_absent hthere, ofFile_of_absent (hholds.trans hthere)]
  | true =>
      cases hown : readData d (Path.ofString path) with
      | error g =>
          rw [ofFile_of_unread hthere hown,
            ofFile_of_unread (hholds.trans hthere) (hsame.trans hown)]
      | ok own =>
          have hlaid : Laid d (Path.ofString path) own own := by
            by_cases hhas : HasExample d (Path.ofString path)
            · exact .unread hhas hread hf
            · exact .alone hhas
          rw [ofFile_of_read hthere hown,
            ofFile_of_read (hholds.trans hthere) (hsame.trans hown),
            withExample_ok_iff.mpr hlaid, withExample_of_not hbare]

/-- A file on its own. -/
def aloneFile : Disk where
  files := [(["config.yaml"], "layout: {debounce_ms: 7}".toUTF8)]

/-- The file beside an example that breaks the grammar. -/
def besideBroken : Disk where
  files := aloneFile.files ++ [([exampleName], "[".toUTF8)]

/-- A file of one octet that begins no character. -/
def straySingle : Disk where
  files := [(["config.yaml"], ⟨#[0xff]⟩)]

/-- A file beside an example of one such octet. -/
def besideStray : Disk where
  files := aloneFile.files ++ [([exampleName], ⟨#[0xff]⟩)]

end StickerPages.Settings
