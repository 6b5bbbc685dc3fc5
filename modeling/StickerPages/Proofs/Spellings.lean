import StickerPages.Proofs.Layers

/-!
# Settings under several names

A field of a record is found in a map under its name, and a plugin field under a second one, and
nothing keeps a map from holding both. Reading a section writes the entries of a map into a record
one after the other, so a field ends with the value of the last entry under any of its names, and
without one with its default (`get_writeFields`). Entries under other names never matter.

What the four sections owe for this is in `LawfulSection`: fields are told apart by their names, none
goes by a name from outside, and writing one is seen in that one only.
-/

namespace StickerPages.Settings

open Entries

/-! ## The laws of a section -/

/-- The fields of a record are what they are taken for. -/
class LawfulSection (σ : Type) [Section σ] : Prop where
  /-- Fields are told apart by their names. -/
  names_nodup : ((Section.fields : List (Field σ)).map (·.name)).Nodup
  /-- No field goes by a name from outside. -/
  inside : ∀ f ∈ (Section.fields : List (Field σ)), outsideNames.lookup f.name = none
  get_set : ∀ f ∈ (Section.fields : List (Field σ)), ∀ v s, f.get (f.set v s) = v
  get_set_other : ∀ f ∈ (Section.fields : List (Field σ)), ∀ g ∈ (Section.fields : List (Field σ)),
    f.name ≠ g.name → ∀ v s, f.get (g.set v s) = f.get s
  /-- A record is no more than its fields. -/
  ext : ∀ s t : σ, (∀ f ∈ (Section.fields : List (Field σ)), f.get s = f.get t) → s = t

instance : LawfulSection System where
  names_nodup := by decide
  inside := by decide
  get_set := by simp [Section.fields]
  get_set_other := by simp [Section.fields]
  ext := fun ⟨_, _, _⟩ ⟨_, _, _⟩ h => by simpa [Section.fields] using h

instance : LawfulSection Plugin where
  names_nodup := by decide
  inside := by decide
  get_set := by simp [Section.fields]
  get_set_other := by simp [Section.fields]
  ext := fun ⟨_, _, _, _, _, _, _⟩ ⟨_, _, _, _, _, _, _⟩ h => by simpa [Section.fields] using h

instance : LawfulSection Layout where
  names_nodup := by decide
  inside := by decide
  get_set := by simp [Section.fields]
  get_set_other := by simp [Section.fields]
  ext := fun ⟨_, _, _, _, _, _, _, _, _, _⟩ ⟨_, _, _, _, _, _, _, _, _, _⟩ h => by
    simpa [Section.fields] using h

instance : LawfulSection Loader where
  names_nodup := by decide
  inside := by decide
  get_set := by simp [Section.fields]
  get_set_other := by simp [Section.fields]
  ext := fun ⟨_, _, _, _⟩ ⟨_, _, _, _⟩ h => by simpa [Section.fields] using h

/-! ## Spellings -/

/-- The names under which a field is found. -/
def Field.spellings {σ : Type} (f : Field σ) : List String :=
  f.name :: (outsideNames.filter (·.2 == f.name)).map (·.1)

section

variable {σ : Type} [Section σ] [LawfulSection σ] {f g : Field σ} {n : String}

/-- The outside names are told apart as well. -/
theorem outsideNames_lookup {m n : String} :
    outsideNames.lookup n = some m ↔ (n, m) ∈ outsideNames := by
  have hnodup : (outsideNames.map (·.1)).Nodup := by decide
  constructor
  · intro h
    obtain ⟨before, after, hsplit, -⟩ := List.lookup_eq_some_iff.mp h
    rw [hsplit]
    exact List.mem_append_right _ List.mem_cons_self
  · intro h
    have hput := Pairs.lookup_putAll_of_mem outsideNames hnodup h []
    rwa [Pairs.putAll_of_nodup hnodup] at hput

theorem eq_of_name_eq (hf : f ∈ Section.fields) (hg : g ∈ Section.fields)
    (h : f.name = g.name) : f = g :=
  List.inj_on_of_nodup_map LawfulSection.names_nodup hf hg h

omit [Section σ] [LawfulSection σ] in
theorem mem_spellings : n ∈ f.spellings ↔ n = f.name ∨ outsideNames.lookup n = some f.name := by
  rw [Field.spellings, List.mem_cons, outsideNames_lookup, List.mem_map]
  refine or_congr_right ⟨?_, fun h => ⟨_, List.mem_filter.mpr ⟨h, beq_self_eq_true _⟩, rfl⟩⟩
  rintro ⟨⟨o, i⟩, he, rfl⟩
  obtain ⟨he, hi⟩ := List.mem_filter.mp he
  rwa [← eq_of_beq hi]

theorem mem_spellings_iff (hf : f ∈ Section.fields) :
    n ∈ f.spellings ↔ f.name = (outsideNames.lookup n).getD n := by
  rw [mem_spellings]
  cases hn : outsideNames.lookup n with
  | none => simp [eq_comm]
  | some m =>
      have hne : n ≠ f.name := by
        rintro rfl
        cases (LawfulSection.inside f hf).symm.trans hn
      simp [hne, eq_comm]

/-- A field is named by its spellings, and by nothing else. -/
theorem fieldNamed?_eq_some :
    fieldNamed? σ (.text n) = some f ↔ f ∈ Section.fields ∧ n ∈ f.spellings := by
  unfold fieldNamed? insideName
  dsimp only
  constructor
  · intro h
    have hf := List.mem_of_find?_eq_some h
    exact ⟨hf, (mem_spellings_iff hf).mpr (by simpa using List.find?_some h)⟩
  · rintro ⟨hf, hn⟩
    have hname := (mem_spellings_iff hf).mp hn
    cases hfind : (Section.fields : List (Field σ)).find?
        fun g => g.name == (outsideNames.lookup n).getD n with
    | none => exact absurd (List.find?_eq_none.mp hfind f hf) (by simp [hname])
    | some g =>
        have hg : g.name = (outsideNames.lookup n).getD n := by simpa using List.find?_some hfind
        rw [eq_of_name_eq (List.mem_of_find?_eq_some hfind) hf (hg.trans hname.symm)]

end

/-! ## The last entry counts -/

/-- The value of the last entry under one of these names. -/
def lastUnder (names : List String) : List (String × Value) → Option Value
  | [] => none
  | (n, v) :: r => (lastUnder names r).or (if n ∈ names then some v else none)

/-- The last of these names that occurs. -/
def lastName? (names : List String) (es : Entries) : Option String :=
  (es.names.filter (· ∈ names)).getLast?

theorem lastUnder_texts {names : List String} {ws : List (String × Value)}
    (h : (ws.map (·.1)).Nodup) :
    lastUnder names ws = ((ws.map (·.1)).filter (· ∈ names)).getLast?.bind fun n => ws.lookup n := by
  induction ws with
  | nil => rfl
  | cons w r ih =>
      obtain ⟨n, v⟩ := w
      obtain ⟨hn, hr⟩ := List.nodup_cons.mp h
      -- a name behind the head is another one, so the head does not stand in its way
      have hbehind : ∀ m, ((r.map (·.1)).filter (· ∈ names)).getLast? = some m →
          ((n, v) :: r).lookup m = r.lookup m ∧ (r.lookup m).isSome = true := by
        intro m hm
        have hmem := (List.mem_filter.mp (List.mem_of_getLast? hm)).1
        have hne : m ≠ n := by
          rintro rfl
          exact hn hmem
        obtain ⟨e, he, rfl⟩ := List.mem_map.mp hmem
        rw [List.lookup_cons, beq_eq_false_iff_ne.mpr hne, List.lookup_isSome_iff]
        exact ⟨rfl, e, he, beq_self_eq_true _⟩
      rw [lastUnder, ih hr, List.map_cons]
      by_cases hnames : n ∈ names
      · rw [List.filter_cons_of_pos (by simpa using hnames), List.getLast?_cons]
        cases hlast : ((r.map (·.1)).filter (· ∈ names)).getLast? with
        | none => simp [hnames, List.lookup_cons]
        | some m =>
            obtain ⟨hsame, hsome⟩ := hbehind m hlast
            obtain ⟨w, hw⟩ := Option.isSome_iff_exists.mp hsome
            simp [hsame, hw]
      · rw [List.filter_cons_of_neg (by simpa using hnames), if_neg hnames, Option.or_none]
        cases hlast : ((r.map (·.1)).filter (· ∈ names)).getLast? with
        | none => rfl
        | some m => exact (hbehind m hlast).1.symm

/-- The last entry under one of these names stands under the last of them that occurs. -/
theorem lastUnder_eq {es : Entries} (h : es.TextsOnce) (names : List String) :
    lastUnder names es.texts = (lastName? names es).bind es.at? := by
  rw [lastUnder_texts h, lastName?, Entries.names]
  congr 1
  funext n
  exact (at?_eq es n).symm

theorem lastName?_eq_none_iff {names : List String} {es : Entries} :
    lastName? names es = none ↔ ∀ n ∈ names, es.at? n = none := by
  rw [lastName?, List.getLast?_eq_none_iff, List.filter_eq_nil_iff]
  simp only [decide_eq_true_eq, ← at?_isSome_iff, ← Option.not_isSome_iff_eq_none]
  exact ⟨fun h n hn hsome => h n hsome hn, fun h n hsome hn => h n hn hsome⟩

theorem mem_of_lastName? {names : List String} {es : Entries} {n : String}
    (h : lastName? names es = some n) : n ∈ names ∧ (es.at? n).isSome = true := by
  obtain ⟨hmem, hn⟩ := List.mem_filter.mp (List.mem_of_getLast? h)
  exact ⟨by simpa using hn, at?_isSome_iff.mpr hmem⟩

/-- **What the last name becomes under merging**: a name that is new on top comes last, and without
one the base keeps its own. -/
theorem lastName?_merge (names : List String) {os : Entries} (hos : os.TextsOnce) (bs : Entries) :
    (∃ n ∈ names, lastName? names (merge bs os) = some n ∧ (os.at? n).isSome = true) ∨
      (lastName? names (merge bs os) = lastName? names bs ∧
        ∀ n ∈ names, (os.at? n).isSome = true → (bs.at? n).isSome = true) := by
  have hsplit : lastName? names (merge bs os) =
      ((os.names.filter (· ∉ bs.names)).filter (· ∈ names)).getLast?.or (lastName? names bs) := by
    rw [lastName?, names_merge hos, List.filter_append, List.getLast?_append, lastName?]
  cases hnew : ((os.names.filter (· ∉ bs.names)).filter (· ∈ names)).getLast? with
  | some n =>
      obtain ⟨hmem, hn⟩ := List.mem_filter.mp (List.mem_of_getLast? hnew)
      exact .inl ⟨n, by simpa using hn, by rw [hsplit, hnew, Option.some_or],
        at?_isSome_iff.mpr (List.mem_filter.mp hmem).1⟩
  | none =>
      refine .inr ⟨by rw [hsplit, hnew, Option.none_or], fun n hn hsome => ?_⟩
      by_contra hnone
      rw [List.getLast?_eq_none_iff, List.filter_eq_nil_iff] at hnew
      rw [at?_isSome_iff] at hsome hnone
      exact hnew n (List.mem_filter.mpr ⟨hsome, by simpa using hnone⟩) (by simpa using hn)

section

variable {σ : Type} [Section σ] [LawfulSection σ] {f : Field σ} {n : String}

/-- Writes one entry into a record. -/
def writeField (s : σ) (e : Scalar × Value) : σ :=
  match fieldNamed? σ e.1 with
  | some f => f.set e.2 s
  | none => s

omit [LawfulSection σ] in
theorem writeFields_cons (s : σ) (e : Scalar × Value) (es : Entries) :
    writeFields s (e :: es) = writeFields (writeField s e) es := rfl

/-- An entry under one of a field's names sets the field, and any other entry leaves it. -/
theorem get_writeField (hf : f ∈ Section.fields) (s : σ) (n : String) (v : Value) :
    f.get (writeField s (.text n, v)) = if n ∈ f.spellings then v else f.get s := by
  unfold writeField
  dsimp only
  cases hg : fieldNamed? σ (.text n) with
  | none =>
      rw [if_neg]
      intro hn
      cases (fieldNamed?_eq_some.mpr ⟨hf, hn⟩).symm.trans hg
  | some g =>
      obtain ⟨hmem, hn⟩ := fieldNamed?_eq_some.mp hg
      dsimp only
      by_cases hname : f.name = g.name
      · obtain rfl := eq_of_name_eq hf hmem hname
        rw [if_pos hn, LawfulSection.get_set f hf]
      · have hother : n ∉ f.spellings := fun h =>
          hname (((mem_spellings_iff hf).mp h).trans ((mem_spellings_iff hmem).mp hn).symm)
        rw [if_neg hother, LawfulSection.get_set_other f hf g hmem hname]

omit [LawfulSection σ] in
theorem writeField_other {k : Scalar} (hk : ∀ s, k ≠ .text s) (s : σ) (v : Value) :
    writeField s (k, v) = s := by
  cases k with
  | text t => exact absurd rfl (hk t)
  | _ => rfl

/-- **What a field holds after reading** is the value of the last entry under one of its names. -/
theorem get_writeFields (hf : f ∈ Section.fields) (es : Entries) :
    ∀ s, f.get (writeFields s es) = (lastUnder f.spellings es.texts).getD (f.get s) := by
  induction es with
  | nil => exact fun _ => rfl
  | cons e r ih =>
      intro s
      obtain ⟨k, v⟩ := e
      rw [writeFields_cons, ih]
      rcases text_or k with ⟨n, rfl⟩ | hk
      · rw [get_writeField hf, texts_cons_text, lastUnder]
        by_cases hn : n ∈ f.spellings
        · cases lastUnder f.spellings (texts r) <;> simp [hn]
        · simp [hn]
      · rw [writeField_other hk, texts_cons_other hk]

theorem get_ofEntries (hf : f ∈ Section.fields) (es : Entries) : f.get (ofEntries σ es) =
    (lastUnder f.spellings es.texts).getD (f.get Section.default) :=
  get_writeFields hf es _

omit [LawfulSection σ] in
/-- A section is read from the entries that stand for it. -/
theorem portionOf_of_entries {es fs : Entries} {name : String}
    (h : sectionEntries? ((es.at? name).getD .null) = some fs) :
    portionOf σ (es.at? name) = .section (ofEntries σ fs) := by
  cases hv : es.at? name with
  | none =>
      rw [hv] at h
      obtain rfl : [] = fs := Option.some.inj h
      rfl
  | some v =>
      rw [hv, Option.getD_some] at h
      rw [portionOf, Option.map_some, Option.getD_some, readPortion, h]

end

/-- A map that stands under a name is its section, and without one the section is empty. -/
theorem sectionEntries?_eq {es : Entries} {name : String} (hes : es.Sectioned name) :
    sectionEntries? ((es.at? name).getD .null) = some (es.sectionAt name) := by
  obtain ⟨hnone, hempty⟩ | hsome := hes.none_or
  · rw [hnone, hempty]
    rfl
  · rw [hsome]
    cases es.sectionAt name <;> rfl

/-- The entries that stand for a section have each text once. -/
theorem textsOnce_of_entries {es fs : Entries} {name : String} (hes : es.SectionsOnce)
    (h : sectionEntries? ((es.at? name).getD .null) = some fs) : fs.TextsOnce := by
  unfold sectionEntries? Value.orElse at h
  cases hv : es.at? name with
  | none =>
      rw [hv] at h
      obtain rfl : [] = fs := Option.some.inj h
      exact List.nodup_nil
  | some v =>
      rw [hv, Option.getD_some] at h
      split at h
      · next gs hgs =>
        cases h
        split at hgs
        · exact hes name fs (hgs ▸ hv)
        · cases hgs
          exact List.nodup_nil
      · cases h

/-- Under a single name there is one entry at most. -/
theorem lastUnder_single {es : Entries} (h : es.TextsOnce) (n : String) :
    lastUnder [n] es.texts = es.at? n := by
  rw [lastUnder_eq h]
  cases hlast : lastName? [n] es with
  | none => exact (lastName?_eq_none_iff.mp hlast n (by simp)).symm
  | some m =>
      obtain rfl : m = n := by simpa using (mem_of_lastName? hlast).1
      rfl

end StickerPages.Settings
