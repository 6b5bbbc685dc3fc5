import StickerPages.Proofs.Defaults
import StickerPages.Proofs.Refusals

/-!
# A file and its example, layer by layer

The sections of a configuration file are maps inside a map. Each of them has each text once, as the
whole has, because each was read from a node of its own (`sectionsOnce_readData`). Merging two files
merges them section by section (`texts_sectionAt_merge`).

So there is one map that an accepted file comes to: its own, merged into that of its example
(`laidIn`). It passed the check, the configuration was read from it, and apart from warnings only the
check's remarks were reported (`ofFile_accepted`).
-/

namespace StickerPages

/-! ## Maps inside maps -/

namespace Yaml

/-- A node has this value. -/
def IsRead (v : Value) : Prop := ∃ n : Node, n.value = .ok v

mutual

/-- The values that a mapping takes over, and its own, are those of nodes. -/
theorem isRead_of_pairValues : ∀ (pairs : List (Node × Node)) {taken own : Entries},
    pairValues pairs = .ok (taken, own) → ∀ e ∈ taken ++ own, IsRead e.2
  | [], taken, own, h => by
      rw [pairValues] at h
      cases h
      exact nofun
  | (k, v) :: r, taken, own, h => by
      rw [pairValues] at h
      split at h
      · obtain ⟨more, hmore, h⟩ := bind_eq_ok.mp h
        obtain ⟨⟨rest, own'⟩, hrest, h⟩ := bind_eq_ok.mp h
        cases h
        intro e he
        rw [List.append_assoc, List.mem_append] at he
        exact he.elim (isRead_of_takenFrom v hmore e) (isRead_of_pairValues r hrest e)
      · obtain ⟨key, -, h⟩ := bind_eq_ok.mp h
        obtain ⟨value, hvalue, h⟩ := bind_eq_ok.mp h
        obtain ⟨⟨rest, own'⟩, hrest, h⟩ := bind_eq_ok.mp h
        cases h
        intro e he
        rw [List.mem_append, List.mem_cons, or_left_comm] at he
        obtain rfl | he := he
        · exact ⟨v, hvalue⟩
        · exact isRead_of_pairValues r hrest e (List.mem_append.mpr he)

theorem isRead_of_takenFrom : ∀ (n : Node) {taken : Entries},
    takenFrom n = .ok taken → ∀ e ∈ taken, IsRead e.2
  | .text .., _, h => by
      rw [takenFrom] at h
      cases h
  | .sequence _ items, _, h => by
      rw [takenFrom] at h
      exact isRead_of_takenFromAll items h
  | .mapping _ pairs, _, h => by
      rw [takenFrom] at h
      obtain ⟨⟨taken, own⟩, hpairs, h⟩ := bind_eq_ok.mp h
      cases h
      exact isRead_of_pairValues pairs hpairs

theorem isRead_of_takenFromAll : ∀ (items : List Node) {taken : Entries},
    takenFromAll items = .ok taken → ∀ e ∈ taken, IsRead e.2
  | [], _, h => by
      rw [takenFromAll] at h
      cases h
      exact nofun
  | .mapping _ pairs :: r, _, h => by
      rw [takenFromAll] at h
      obtain ⟨⟨taken, own⟩, hpairs, h⟩ := bind_eq_ok.mp h
      obtain ⟨later, hlater, h⟩ := bind_eq_ok.mp h
      cases h
      intro e he
      rw [List.mem_append] at he
      exact he.elim (isRead_of_takenFromAll r hlater e) (isRead_of_pairValues pairs hpairs e)
  | .text .. :: _, _, h => by simp [takenFromAll] at h
  | .sequence .. :: _, _, h => by simp [takenFromAll] at h

end

end Yaml

namespace Entries

variable {es fs : Entries} {name : String}

/-- The map under a name; an empty one where there is none. -/
def sectionAt (es : Entries) (name : String) : Entries :=
  match es.at? name with
  | some (.map fs) => fs
  | _ => []

/-- Under this name stands a map, or nothing. -/
def Sectioned (es : Entries) (name : String) : Prop :=
  ∀ v, es.at? name = some v → ∃ fs, v = .map fs

instance (es : Entries) (name : String) : Decidable (es.Sectioned name) :=
  match h : es.at? name with
  | none => isTrue fun _ hv => nomatch h.symm.trans hv
  | some (.map fs) => isTrue fun _ hv => ⟨fs, Option.some.inj (hv.symm.trans h)⟩
  | some (.scalar s) => isFalse fun hes => nomatch hes (.scalar s) h
  | some (.list xs) => isFalse fun hes => nomatch hes (.list xs) h

/-- Each section has each text once. -/
def SectionsOnce (es : Entries) : Prop :=
  ∀ name fs, es.at? name = some (.map fs) → TextsOnce fs

theorem Sectioned.none_or (h : es.Sectioned name) :
    es.at? name = none ∧ es.sectionAt name = [] ∨
      es.at? name = some (.map (es.sectionAt name)) := by
  unfold sectionAt
  cases hv : es.at? name with
  | none => exact .inl ⟨rfl, rfl⟩
  | some v =>
      obtain ⟨fs, rfl⟩ := h v hv
      exact .inr rfl

theorem SectionsOnce.sectionAt (h : es.SectionsOnce) (name : String) :
    TextsOnce (es.sectionAt name) := by
  unfold Entries.sectionAt
  split
  · next fs hfs => exact h name fs hfs
  · exact List.nodup_nil

/-- The texts in front of entries, in their order. -/
def names (es : Entries) : List String := es.texts.map (·.1)

theorem names_cons_text (s : String) (v : Value) (es : Entries) :
    names ((.text s, v) :: es) = s :: names es := by
  rw [names, texts_cons_text, List.map_cons, names]

theorem names_cons_other {k : Scalar} (hk : ∀ s, k ≠ .text s) (v : Value) (es : Entries) :
    names ((k, v) :: es) = names es := by
  rw [names, texts_cons_other hk, names]

theorem at?_isSome_iff {n : String} : (es.at? n).isSome = true ↔ n ∈ es.names := by
  rw [at?_eq, List.lookup_isSome_iff, names, List.mem_map]
  exact ⟨fun ⟨e, he, hn⟩ => ⟨e, he, (eq_of_beq hn).symm⟩,
    fun ⟨e, he, hn⟩ => ⟨e, he, beq_iff_eq.mpr hn.symm⟩⟩

theorem mem_of_mem_texts {s : String} {v : Value} (h : (s, v) ∈ es.texts) :
    (Scalar.text s, v) ∈ es := by
  induction es with
  | nil => cases h
  | cons e r ih =>
      obtain ⟨k, w⟩ := e
      rcases text_or k with ⟨t, rfl⟩ | hk
      · rw [texts_cons_text] at h
        obtain h | h := List.mem_cons.mp h
        · cases h
          exact List.mem_cons_self
        · exact List.mem_cons_of_mem _ (ih h)
      · rw [texts_cons_other hk] at h
        exact List.mem_cons_of_mem _ (ih h)

end Entries

namespace Yaml

open Entries

/-- What stands in a map was read from a node of its own. -/
theorem Node.sectionsOnce_value {n : Node} {es : Entries} (h : n.value = .ok (.map es)) :
    es.SectionsOnce := by
  obtain ⟨pairs, taken, own, hpairs, rfl⟩ := n.exists_pairs h
  intro name fs hname
  rw [at?_eq, texts_putAll, texts, Pairs.lookup_putAll] at hname
  obtain ⟨before, after, hsplit, -⟩ := List.lookup_eq_some_iff.mp hname
  have hmem : (name, Value.map fs) ∈ texts (taken ++ own) := by
    rw [← List.mem_reverse]
    exact hsplit ▸ List.mem_append_right _ List.mem_cons_self
  obtain ⟨m, hm⟩ := isRead_of_pairValues pairs hpairs _ (mem_of_mem_texts hmem)
  exact m.textsOnce_value hm

end Yaml

namespace Settings

open Entries

variable {d : Disk} {env : Environment} {p : Path} {path : String} {es fs bs os : Entries}
  {name : String} {a : App}

theorem sectionsOnce_readData (h : readData d p = .ok (.map es)) : es.SectionsOnce := by
  obtain rfl | ⟨n, hn⟩ := exists_node_readData h
  · exact nofun
  · exact n.sectionsOnce_value hn

/-! ## Merging section by section -/

/-- What stands under a name after merging. -/
theorem at?_merge (name : String) : ∀ {fs : Entries}, fs.TextsOnce → ∀ es : Entries,
    (merge es fs).at? name = match fs.at? name with
      | some v => some (layOver (es.at? name) v)
      | none => es.at? name := by
  intro fs
  induction fs with
  | nil =>
      intro _ es
      rw [merge]
      rfl
  | cons f r ih =>
      intro hfs es
      obtain ⟨k, v⟩ := f
      rw [merge]
      rcases text_or k with ⟨s, rfl⟩ | hk
      · rw [TextsOnce, texts_cons_text, List.map_cons, List.nodup_cons] at hfs
        rw [ih hfs.2, at?_eq (_ :: _), texts_cons_text, List.lookup_cons, at?_eq (Pairs.put _ _ _),
          texts_put_text]
        by_cases hs : name = s
        · subst hs
          have hrest : Entries.at? r name = none := by
            rw [at?_eq, List.lookup_eq_none_iff]
            intro e he
            rw [bne_iff_ne]
            rintro rfl
            exact hfs.1 (List.mem_map.mpr ⟨e, he, rfl⟩)
          rw [hrest, Pairs.lookup_put_self, beq_self_eq_true]
          rfl
        · rw [Pairs.lookup_put_other _ _ hs, beq_eq_false_iff_ne.mpr hs, ← at?_eq, ← at?_eq]
      · rw [TextsOnce, texts_cons_other hk] at hfs
        rw [ih hfs, at?_eq (_ :: _), texts_cons_other hk, ← at?_eq, at?_eq (Pairs.put _ _ _),
          texts_put_other es hk, ← at?_eq]

/-- **Names of the base keep their places**, and new names come behind them in their order. -/
theorem names_merge : ∀ {fs : Entries}, fs.TextsOnce → ∀ es : Entries,
    names (merge es fs) = names es ++ (names fs).filter fun n => n ∉ names es := by
  intro fs
  induction fs with
  | nil =>
      intro _ es
      rw [merge]
      exact (List.append_nil _).symm
  | cons f r ih =>
      intro hfs es
      obtain ⟨k, v⟩ := f
      rw [merge]
      rcases text_or k with ⟨s, rfl⟩ | hk
      · rw [TextsOnce, texts_cons_text, List.map_cons, List.nodup_cons] at hfs
        have hput (v : Value) : names (Pairs.put es (.text s) v) =
            if s ∈ names es then names es else names es ++ [s] := by
          rw [names, texts_put_text, Pairs.keys_put]
          simp only [Pairs.has_iff]
          rfl
        rw [ih hfs.2, hput, names_cons_text]
        by_cases hs : s ∈ names es
        · rw [if_pos hs, List.filter_cons_of_neg (by simpa using hs)]
        · rw [if_neg hs, List.filter_cons_of_pos (by simpa using hs), List.append_assoc,
            List.singleton_append]
          have hrest : ∀ n ∈ names r, n ≠ s := fun n hn => by
            rintro rfl
            exact hfs.1 hn
          congr 2
          refine List.filter_congr fun n hn => ?_
          simp [hrest n hn]
      · rw [TextsOnce, texts_cons_other hk] at hfs
        have hput (v : Value) : names (Pairs.put es k v) = names es := by
          rw [names, texts_put_other es hk, names]
        rw [ih hfs, names_cons_other hk, hput]

theorem layOver_map (bs fs : Entries) : layOver (some (.map bs)) (.map fs) = .map (merge bs fs) := by
  rw [layOver]

/-- Only a map laid over something comes to a map: over another map it is merged into that. -/
theorem layOver_eq_map {below : Option Value} {v : Value} {gs : Entries}
    (h : layOver below v = .map gs) : ∃ us, v = .map us ∧
      (gs = us ∨ ∃ bs, below = some (.map bs) ∧ gs = merge bs us) := by
  cases v with
  | map us =>
      refine ⟨us, rfl, ?_⟩
      cases below with
      | none =>
          rw [layOver_none] at h
          exact .inl (Value.map.inj h).symm
      | some b =>
          cases b with
          | map bs =>
              rw [layOver_map] at h
              exact .inr ⟨bs, rfl, (Value.map.inj h).symm⟩
          | _ =>
              simp only [layOver] at h
              exact .inl (Value.map.inj h).symm
  | _ => simp [layOver] at h

theorem sectionsOnce_merge (hes : es.SectionsOnce) (hfs : fs.SectionsOnce) (honce : fs.TextsOnce) :
    (merge es fs).SectionsOnce := by
  intro name gs hgs
  rw [at?_merge name honce] at hgs
  cases hv : fs.at? name with
  | none =>
      rw [hv] at hgs
      exact hes name gs hgs
  | some v =>
      rw [hv] at hgs
      have hlaid : layOver (es.at? name) v = .map gs := Option.some.inj hgs
      obtain ⟨us, rfl, rfl | ⟨bs, hbs, rfl⟩⟩ := layOver_eq_map hlaid
      · exact hfs name _ hv
      · exact textsOnce_merge us (hes name bs hbs)

/-- **Merging two files merges their sections.** -/
theorem texts_sectionAt_merge (hbase : bs.Sectioned name) (hown : os.Sectioned name)
    (honce : os.TextsOnce) (hsections : os.SectionsOnce) :
    (merge bs os).Sectioned name ∧ texts ((merge bs os).sectionAt name) =
      texts (merge (bs.sectionAt name) (os.sectionAt name)) := by
  have hat := at?_merge name honce bs
  obtain ⟨hnone, hempty⟩ | hsome := hown.none_or
  · rw [hnone] at hat
    have hsame : (merge bs os).sectionAt name = bs.sectionAt name := by
      rw [sectionAt, hat, sectionAt]
    exact ⟨fun v hv => hbase v (hat.symm.trans hv), by rw [hsame, hempty, merge]⟩
  · obtain ⟨hnone, hempty⟩ | hbelow := hbase.none_or
    · rw [hsome, hnone] at hat
      dsimp only at hat
      rw [layOver_none] at hat
      have hsame : (merge bs os).sectionAt name = os.sectionAt name := by rw [sectionAt, hat]
      refine ⟨fun v hv => ⟨_, Option.some.inj (hv.symm.trans hat)⟩, ?_⟩
      rw [hsame, hempty, texts_merge_nil (hsections.sectionAt name)]
    · rw [hsome, hbelow] at hat
      dsimp only at hat
      rw [layOver_map] at hat
      have hsame : (merge bs os).sectionAt name =
          merge (bs.sectionAt name) (os.sectionAt name) := by rw [sectionAt, hat]
      exact ⟨fun v hv => ⟨_, Option.some.inj (hv.symm.trans hat)⟩, by rw [hsame]⟩

/-! ## A file and its example, as maps -/

/-- The map in a file; an empty one if there is none. -/
def entriesIn (d : Disk) (p : Path) : Entries :=
  match readData d p with
  | .ok (.map es) => es
  | _ => []

/-- The map in the example beside a file; an empty one if there is none. -/
def exampleIn (d : Disk) (p : Path) : Entries :=
  if HasExample d p then entriesIn d (exampleOf p) else []

theorem textsOnce_entriesIn (d : Disk) (p : Path) : (entriesIn d p).TextsOnce := by
  unfold entriesIn
  split
  · next es hes => exact textsOnce_readData hes
  · exact List.nodup_nil

theorem sectionsOnce_entriesIn (d : Disk) (p : Path) : (entriesIn d p).SectionsOnce := by
  unfold entriesIn
  split
  · next es hes => exact sectionsOnce_readData hes
  · exact nofun

theorem textsOnce_exampleIn (d : Disk) (p : Path) : (exampleIn d p).TextsOnce := by
  unfold exampleIn
  split
  · exact textsOnce_entriesIn d _
  · exact List.nodup_nil

theorem sectionsOnce_exampleIn (d : Disk) (p : Path) : (exampleIn d p).SectionsOnce := by
  unfold exampleIn
  split
  · exact sectionsOnce_entriesIn d _
  · exact nofun

/-- The map of a file merged into that of its example. -/
def laidIn (d : Disk) (p : Path) : Entries := merge (exampleIn d p) (entriesIn d p)

theorem textsOnce_laidIn (d : Disk) (p : Path) : (laidIn d p).TextsOnce :=
  textsOnce_merge _ (textsOnce_exampleIn d p)

theorem sectionsOnce_laidIn (d : Disk) (p : Path) : (laidIn d p).SectionsOnce :=
  sectionsOnce_merge (sectionsOnce_exampleIn d p) (sectionsOnce_entriesIn d p)
    (textsOnce_entriesIn d p)

/-- A section of what a file comes to beside its example. -/
theorem sectioned_laidIn (hexample : (exampleIn d p).Sectioned name)
    (hown : (entriesIn d p).Sectioned name) : (laidIn d p).Sectioned name ∧
      texts ((laidIn d p).sectionAt name) =
        texts (merge ((exampleIn d p).sectionAt name) ((entriesIn d p).sectionAt name)) :=
  texts_sectionAt_merge hexample hown (textsOnce_entriesIn d p) (sectionsOnce_entriesIn d p)

/-- **What a file comes to beside its example** is, as far as texts go, the one map merged into the
other. An example that is missing, or no map, or cannot be read, is as good as an empty one. -/
theorem Laid.texts_eq {own : Value} (h : Laid d p own (.map es)) (hown : readData d p = .ok own) :
    texts es = texts (laidIn d p) := by
  have halone {os : Entries} (hos : readData d p = .ok (.map os)) (hnone : exampleIn d p = []) :
      texts os = texts (laidIn d p) := by
    have hsame : entriesIn d p = os := by rw [entriesIn, hos]
    rw [laidIn, hsame, hnone, texts_merge_nil (textsOnce_readData hos)]
  generalize hdata : Value.map es = data at h
  cases h with
  | alone hnot =>
      subst hdata
      exact halone hown (if_neg hnot)
  | unread hhas hread =>
      subst hdata
      refine halone hown ?_
      rw [exampleIn, if_pos hhas, entriesIn, hread]
  | @onTop base hhas hread =>
      obtain ⟨os, rfl, hes⟩ := overExample_eq_map hdata.symm
      cases base with
      | map bs =>
          have hbase : exampleIn d p = bs := by rw [exampleIn, if_pos hhas, entriesIn, hread]
          have hsame : entriesIn d p = os := by rw [entriesIn, hown]
          rw [laidIn, hbase, hsame, hes]
      | _ =>
          obtain rfl : (es : Entries) = os := hes
          refine halone hown ?_
          rw [exampleIn, if_pos hhas, entriesIn, hread]

/-! ## Accepted files -/

theorem at?_congr (h : texts es = texts fs) (name : String) : es.at? name = fs.at? name := by
  rw [at?_eq, h, at?_eq]

theorem check_congr (h : texts es = texts fs) : check (.map es) = check (.map fs) := by
  rw [check_map, check_map, layoutOf?, layoutOf?, namesSource, namesSource, at?_congr h, at?_congr h]

theorem readApp_congr (h : texts es = texts fs) : (readApp es).1 = (readApp fs).1 := by
  rw [readApp_eq, h, readApp_eq]

/-- The reports on an example are warnings. -/
theorem withExample_warns (d : Disk) (p : Path) (own : Value) :
    ∀ r ∈ (withExample d p own).1, r.level = .warning := by
  unfold withExample
  dsimp only
  split
  · split
    · exact nofun
    · split
      · simp
      · exact nofun
  · exact nofun

theorem readPortion_warns (σ : Type) [Section σ] (v : Value) :
    ∀ r ∈ (readPortion σ v).2, r.level = .warning := by
  unfold readPortion
  split
  · intro r hr
    obtain ⟨key, -, rfl⟩ := List.mem_map.mp hr
    rfl
  · exact nofun

/-- An entry adds warnings to the reports. -/
theorem readEntry_warns (a : App) (log : Log) (e : Scalar × Value) :
    ∃ added, (readEntry (a, log) e).2 = log ++ added ∧ ∀ r ∈ added, r.level = .warning := by
  unfold readEntry
  dsimp only
  split
  · exact ⟨_, rfl, readPortion_warns System e.2⟩
  · exact ⟨_, rfl, readPortion_warns Plugin e.2⟩
  · exact ⟨_, rfl, readPortion_warns Layout e.2⟩
  · exact ⟨_, rfl, readPortion_warns Loader e.2⟩
  · exact ⟨_, rfl, fun r hr => List.mem_singleton.mp hr ▸ rfl⟩

/-- The reports on unknown keys are warnings. -/
theorem readApp_warns (es : Entries) : ∀ r ∈ (readApp es).2, r.level = .warning := by
  have hfold : ∀ (es : Entries) (s : App × Log), (∀ r ∈ s.2, r.level = .warning) →
      ∀ r ∈ (es.foldl readEntry s).2, r.level = .warning := by
    intro es
    induction es with
    | nil => exact fun _ hs => hs
    | cons e r ih =>
        rintro ⟨a, log⟩ hs
        obtain ⟨added, hadded, hwarns⟩ := readEntry_warns a log e
        refine ih _ fun r hr => ?_
        rw [hadded] at hr
        exact (List.mem_append.mp hr).elim (hs r) (hwarns r)
  exact hfold es ({}, []) fun _ hr => absurd hr List.not_mem_nil

/-- **What an accepted file went through.** Its map, merged into the example's, passed the check and
was read. What was reported besides warnings are the check's remarks. -/
theorem ofFile_accepted (hholds : d.holds (Path.ofString path) = true)
    (h : (App.ofFile d env path).2 = .ok a) :
    (readApp (laidIn d (Path.ofString path))).1.under env = .ok a ∧
      ∃ remarks, check (.map (laidIn d (Path.ofString path))) = .ok remarks ∧
        ∀ r, r.level ≠ .warning → (r ∈ (App.ofFile d env path).1 ↔ r ∈ remarks) := by
  cases hread : readData d (Path.ofString path) with
  | error f =>
      rw [ofFile_of_unread hholds hread] at h
      cases h
  | ok own =>
      rw [ofFile_of_read hholds hread] at h
      obtain ⟨log, data, hlaid⟩ : ∃ log data,
          withExample d (Path.ofString path) own = (log, .ok data) := by
        rcases hlaid : withExample d (Path.ofString path) own with ⟨log, f | data⟩
        · rw [hlaid] at h
          cases h
        · exact ⟨log, data, rfl⟩
      rw [hlaid] at h
      obtain ⟨es, rfl, hunder⟩ := readChecked_ok h
      have hdata : Laid d (Path.ofString path) own (.map es) :=
        withExample_ok_iff.mp (congrArg Prod.snd hlaid)
      have htexts : texts es = texts (laidIn d (Path.ofString path)) := hdata.texts_eq hread
      rw [readApp_congr htexts] at hunder
      refine ⟨hunder, ?_⟩
      cases hcheck : check (.map es) with
      | error f => simp [readChecked, hcheck] at h
      | ok remarks =>
          refine ⟨remarks, (check_congr htexts).symm.trans hcheck, fun r hr => ?_⟩
          have hlog : (App.ofFile d env path).1 = log ++ (remarks ++ (readApp es).2) := by
            unfold App.ofFile
            dsimp only
            rw [if_neg (by simp [hholds]), hread]
            dsimp only
            rw [hlaid]
            dsimp only
            rw [readChecked, hcheck]
          have hexample : ∀ r ∈ log, r.level = .warning := by
            have hwarns := withExample_warns d (Path.ofString path) own
            rwa [hlaid] at hwarns
          rw [hlog, List.mem_append, List.mem_append]
          constructor
          · rintro (hmem | hmem | hmem)
            · exact absurd (hexample r hmem) hr
            · exact hmem
            · exact absurd (readApp_warns es r hmem) hr
          · exact fun hmem => .inr (.inl hmem)

end Settings

end StickerPages
