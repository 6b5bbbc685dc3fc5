import StickerPages.Proofs.Layering
import StickerPages.Proofs.Sameness

/-!
# Merging maps, seen along paths

A map is laid over another key by key, and where both hold a map at a key the same happens there.
What comes of it is said best by paths, the keys that lead from a map to the maps inside it
(`Value.along?`). Along a path on which the upper map has no other value than maps, the merged map has
what the upper one has there, laid over what the lower one has there (`along?_layOver`). All else
follows from this one equation (`merge_along`).

That a map has each key once is needed for the upper map only, and whatever is read from a file has it
(`eachMap_readData`); so the equation says what a file has over its example (`along?_overExample`).
Laying a map over twice takes more: its keys have to be found again, and what is not a number never is
(`Findable`).
-/

namespace StickerPages

/-- What stands at the end of a path of keys. -/
def Value.along? (v : Value) : List Scalar → Option Value
  | [] => some v
  | k :: p =>
    match v with
    | .map es => (es.lookup k).bind fun w => w.along? p
    | _ => none

/-- The entries of the map at the end of a path; none where there is no map. -/
def Value.entriesAlong (v : Value) (p : List Scalar) : Entries :=
  match v.along? p with
  | some (.map es) => es
  | _ => []

theorem Value.entriesAlong_of_map {v : Value} {p : List Scalar} {es : Entries}
    (h : v.along? p = some (.map es)) : v.entriesAlong p = es := by
  rw [entriesAlong, h]

theorem Value.entriesAlong_of_other {v : Value} {p : List Scalar}
    (h : ∀ es, v.along? p ≠ some (.map es)) : v.entriesAlong p = [] := by
  unfold entriesAlong
  split
  · next es hes => exact absurd hes (h es)
  · rfl

/-- On the way to the end of the path stands something that is no map. -/
def Value.Blocks (v : Value) (p : List Scalar) : Prop :=
  ∃ q w, q <+: p ∧ q ≠ p ∧ v.along? q = some w ∧ ∀ us, w ≠ .map us

/-- The value, if it is a map, and all maps that keys lead to have this property. -/
inductive Value.EachMap (P : Entries → Prop) : Value → Prop
  | scalar (s : Scalar) : EachMap P (.scalar s)
  | list (xs : List Value) : EachMap P (.list xs)
  | map {es : Entries} (here : P es) (inside : ∀ e ∈ es, EachMap P e.2) : EachMap P (.map es)

/-- No two of the keys are the same. -/
def Entries.Distinct (es : Entries) : Prop :=
  es.Pairwise fun e f => (e.1 == f.1) = false

instance (es : Entries) : Decidable es.Distinct :=
  inferInstanceAs (Decidable (es.Pairwise _))

/-- Each key is found again. -/
def Entries.Findable (es : Entries) : Prop :=
  ∀ e ∈ es, (e.1 == e.1) = true

instance (es : Entries) : Decidable es.Findable :=
  inferInstanceAs (Decidable (∀ e ∈ es, _))

variable {v w : Value} {p : List Scalar}

namespace Value

theorem along?_nil : v.along? [] = some v := rfl

theorem along?_cons (es : Entries) (k : Scalar) :
    (Value.map es).along? (k :: p) = (es.lookup k).bind fun w => w.along? p := rfl

theorem along?_cons_plain (h : ∀ us, v ≠ .map us) (k : Scalar) : v.along? (k :: p) = none := by
  cases v with
  | map us => exact absurd rfl (h us)
  | _ => rfl

/-- Nothing stands behind what is no map. -/
theorem along?_append_plain (h : v.along? p = some w) (hw : ∀ us, w ≠ .map us) {q : List Scalar}
    (hq : q ≠ []) : v.along? (p ++ q) = none := by
  induction p generalizing v with
  | nil =>
      obtain rfl : v = w := Option.some.inj h
      obtain ⟨k, r, rfl⟩ := List.exists_cons_of_ne_nil hq
      exact along?_cons_plain hw k
  | cons k p ih =>
      cases v with
      | map es =>
          rw [along?_cons] at h
          obtain ⟨u, hu, hw⟩ := Option.bind_eq_some_iff.mp h
          rw [List.cons_append, along?_cons, hu, Option.bind_some, ih hw]
      | _ => rfl

theorem Blocks.along? (h : v.Blocks p) : v.along? p = none := by
  obtain ⟨q, w, ⟨r, rfl⟩, hne, hq, hw⟩ := h
  refine along?_append_plain hq hw ?_
  rintro rfl
  exact hne (List.append_nil q).symm

/-- A value that lets a path pass is a map, and lets it pass behind the first key too. -/
theorem blocks_cons_iff {k : Scalar} : v.Blocks (k :: p) ↔
    (∀ us, v ≠ .map us) ∨ ∃ us w, v = .map us ∧ us.lookup k = some w ∧ w.Blocks p := by
  constructor
  · rintro ⟨q, w, hprefix, hne, hq, hw⟩
    cases q with
    | nil =>
        obtain rfl : v = w := Option.some.inj hq
        exact .inl hw
    | cons j q =>
        obtain ⟨rfl, hrest⟩ := List.cons_prefix_cons.mp hprefix
        cases v with
        | map us =>
            obtain ⟨u, hu, hq⟩ := Option.bind_eq_some_iff.mp hq
            exact .inr ⟨us, u, rfl, hu, q, w, hrest, fun h => hne (h ▸ rfl), hq, hw⟩
        | _ => exact .inl nofun
  · rintro (hv | ⟨us, u, rfl, hu, q, w, hprefix, hne, hq, hw⟩)
    · exact ⟨[], v, List.nil_prefix, List.cons_ne_nil _ _ ∘ Eq.symm, rfl, hv⟩
    · refine ⟨k :: q, w, List.cons_prefix_cons.mpr ⟨rfl, hprefix⟩, fun h => hne ?_, ?_, hw⟩
      · exact (List.cons.inj h).2
      · rw [along?_cons, hu, Option.bind_some, hq]

end Value

namespace Entries

variable {es fs : Entries} {j k : Scalar}

/-! ## Single keys -/

theorem mem_of_lookup (h : es.lookup k = some v) : ∃ l, (l, v) ∈ es := by
  induction es with
  | nil => cases h
  | cons e r ih =>
      rw [List.lookup_cons] at h
      cases hk : k == e.1 with
      | true =>
          rw [hk] at h
          obtain rfl : e.2 = v := Option.some.inj h
          exact ⟨e.1, List.mem_cons_self⟩
      | false =>
          rw [hk] at h
          obtain ⟨l, hl⟩ := ih h
          exact ⟨l, List.mem_cons_of_mem e hl⟩

/-- Two keys that are the same are the same as the same keys. -/
theorem beq_congr (h : (j == k) = true) (l : Scalar) : (j == l) = (k == l) := by
  rw [Bool.eq_iff_iff]
  exact ⟨Scalar.beq_trans (Scalar.beq_symm h), Scalar.beq_trans h⟩

theorem lookup_congr (h : (j == k) = true) (es : Entries) : es.lookup j = es.lookup k := by
  induction es with
  | nil => rfl
  | cons e r ih => rw [List.lookup_cons, List.lookup_cons, beq_congr h, ih]

/-- A write is seen under its own key and under no other. -/
theorem lookup_put (es : Entries) (k j : Scalar) (v : Value) :
    (Pairs.put es k v).lookup j = if j == k then some v else es.lookup j := by
  induction es with
  | nil =>
      rw [Pairs.put, List.lookup_cons]
      cases j == k <;> rfl
  | cons e r ih =>
      obtain ⟨l, w⟩ := e
      rw [Pairs.put]
      by_cases hl : (l == k) = true
      · have hj : (j == l) = (j == k) := by
          rw [Bool.eq_iff_iff]
          exact ⟨(Scalar.beq_trans · hl), (Scalar.beq_trans · (Scalar.beq_symm hl))⟩
        rw [if_pos hl, List.lookup_cons, List.lookup_cons, hj]
        cases j == k <;> rfl
      · rw [if_neg hl, List.lookup_cons, List.lookup_cons, ih]
        by_cases hj : (j == l) = true
        · have hk : ¬ (j == k) = true := fun h => hl (Scalar.beq_trans (Scalar.beq_symm hj) h)
          rw [if_neg hk, if_neg hk, hj]
        · rw [eq_false_of_ne_true hj]

/-- A key occurs if it is found. -/
theorem has_eq (es : Entries) (k : Scalar) : Pairs.has es k = (es.lookup k).isSome := by
  induction es with
  | nil => rfl
  | cons e r ih =>
      have hk : (e.1 == k) = (k == e.1) := Bool.eq_iff_iff.mpr ⟨Scalar.beq_symm, Scalar.beq_symm⟩
      rw [Pairs.has_cons, List.lookup_cons, ih, hk]
      cases k == e.1 <;> rfl

theorem has_put (es : Entries) (k j : Scalar) (v : Value) :
    Pairs.has (Pairs.put es k v) j = (j == k || Pairs.has es j) := by
  rw [has_eq, lookup_put, has_eq]
  cases j == k <;> rfl

/-- Writing what is there changes nothing. -/
theorem put_of_lookup (h : es.lookup k = some v) : Pairs.put es k v = es := by
  induction es with
  | nil => cases h
  | cons e r ih =>
      obtain ⟨l, w⟩ := e
      rw [List.lookup_cons] at h
      rw [Pairs.put]
      by_cases hk : (k == l) = true
      · rw [hk] at h
        rw [if_pos (Scalar.beq_symm hk), Option.some.inj h]
      · rw [eq_false_of_ne_true hk] at h
        rw [if_neg fun hl => hk (Scalar.beq_symm hl), ih h]

/-- A key that is like one in front is not found behind it. -/
theorem Distinct.lookup_tail (h : Distinct ((k, v) :: es)) (hj : (j == k) = true) :
    es.lookup j = none := by
  rw [List.lookup_eq_none_iff]
  intro e he
  have hne := (List.pairwise_cons.mp h).1 e he
  rw [bne, beq_congr hj, hne]
  rfl

theorem Distinct.tail {e : Scalar × Value} (h : Distinct (e :: es)) : es.Distinct :=
  (List.pairwise_cons.mp h).2

theorem Distinct.beq_head {e f : Scalar × Value} (h : Distinct (f :: es)) (he : e ∈ es) :
    (e.1 == f.1) = false :=
  eq_false_of_ne_true fun h' => by
    simpa [Scalar.beq_symm h'] using (List.pairwise_cons.mp h).1 e he

/-- An entry is what its key finds. -/
theorem Distinct.lookup_of_mem (h : es.Distinct) (hfind : es.Findable) {e : Scalar × Value}
    (he : e ∈ es) : es.lookup e.1 = some e.2 := by
  induction es with
  | nil => cases he
  | cons f r ih =>
      rw [List.lookup_cons]
      obtain rfl | hr := List.mem_cons.mp he
      · rw [hfind e he]
      · rw [h.beq_head hr]
        exact ih h.tail (fun e he => hfind e (List.mem_cons_of_mem f he)) hr

end Entries

theorem Value.EachMap.of_lookup {P : Entries → Prop} {es : Entries} {k : Scalar}
    (h : (Value.map es).EachMap P) (hv : es.lookup k = some v) : v.EachMap P := by
  cases h with
  | map _ inside =>
      obtain ⟨l, hl⟩ := Entries.mem_of_lookup hv
      exact inside (l, v) hl

theorem Value.EachMap.of_along? {P : Entries → Prop} (h : v.EachMap P)
    (hw : v.along? p = some w) : w.EachMap P := by
  induction p generalizing v with
  | nil => exact Option.some.inj hw ▸ h
  | cons k p ih =>
      cases v with
      | map es =>
          obtain ⟨u, hu, hw⟩ := Option.bind_eq_some_iff.mp hw
          exact ih (h.of_lookup hu) hw
      | _ => cases hw

theorem Value.EachMap.here {P : Entries → Prop} {es : Entries} (h : (Value.map es).EachMap P) :
    P es := by
  cases h with
  | map here _ => exact here

theorem Entries.distinct_entriesAlong (h : v.EachMap Distinct) (p : List Scalar) :
    (v.entriesAlong p).Distinct := by
  unfold Value.entriesAlong
  split
  · next es hes => exact (h.of_along? hes).here
  · exact List.Pairwise.nil

namespace Settings

open Entries

variable {es fs us : Entries} {below : Option Value}

/-! ## One level of a merge -/

/-- **What stands at a key after merging.** -/
theorem lookup_merge (j : Scalar) (hfs : fs.Distinct) (es : Entries) :
    (merge es fs).lookup j = match fs.lookup j with
      | some v => some (layOver (es.lookup j) v)
      | none => es.lookup j := by
  induction fs generalizing es with
  | nil =>
      rw [merge]
      rfl
  | cons f r ih =>
      obtain ⟨k, v⟩ := f
      rw [merge, ih hfs.tail, lookup_put, List.lookup_cons]
      by_cases hj : (j == k) = true
      · rw [hfs.lookup_tail hj, if_pos hj, hj, lookup_congr hj]
      · rw [if_neg hj, eq_false_of_ne_true hj]

/-- **Keys of the lower map keep their places**, and those that are new come behind them in their
order. -/
theorem keys_merge (hfs : fs.Distinct) (es : Entries) :
    (merge es fs).map (·.1) =
      es.map (·.1) ++ (fs.filter fun e => !Pairs.has es e.1).map (·.1) := by
  induction fs generalizing es with
  | nil =>
      rw [merge]
      exact (List.append_nil _).symm
  | cons f r ih =>
      obtain ⟨k, v⟩ := f
      have hrest : r.filter (fun e => !Pairs.has (Pairs.put es k (layOver (es.lookup k) v)) e.1) =
          r.filter fun e => !Pairs.has es e.1 := by
        refine List.filter_congr fun e he => ?_
        rw [has_put, hfs.beq_head he, Bool.false_or]
      rw [merge, ih hfs.tail, hrest, Pairs.keys_put]
      cases hk : Pairs.has es k with
      | true =>
          rw [if_pos rfl, List.filter_cons_of_neg]
          rw [hk]
          decide
      | false =>
          rw [if_neg (by decide), List.filter_cons_of_pos, List.map_cons, List.append_assoc,
            List.singleton_append]
          rw [hk]
          rfl

/-- Entries that are new to a map come behind it as they are. -/
theorem merge_of_not_has (hfs : fs.Distinct) (hnew : ∀ e ∈ fs, Pairs.has es e.1 = false) :
    merge es fs = es ++ fs := by
  induction fs generalizing es with
  | nil => rw [merge, List.append_nil]
  | cons f r ih =>
      obtain ⟨k, v⟩ := f
      have hk : Pairs.has es k = false := hnew (k, v) List.mem_cons_self
      have hnone : es.lookup k = none := by rwa [has_eq, Option.isSome_eq_false_iff,
        Option.isNone_iff_eq_none] at hk
      rw [merge, hnone, layOver_none, ih hfs.tail, Pairs.put_of_not_has hk, List.append_assoc,
        List.singleton_append]
      intro e he
      rw [has_put, hfs.beq_head he, Bool.false_or]
      exact hnew e (List.mem_cons_of_mem (k, v) he)

theorem merge_nil_left (hfs : fs.Distinct) : merge [] fs = fs :=
  merge_of_not_has hfs fun _ _ => rfl

/-- Entries that a map has, merged into it. -/
theorem merge_of_lookup (h : ∀ e ∈ fs, ∃ w, es.lookup e.1 = some w ∧ layOver (some w) e.2 = w) :
    merge es fs = es := by
  induction fs with
  | nil => rw [merge]
  | cons f r ih =>
      obtain ⟨w, hw, hlaid⟩ := h f List.mem_cons_self
      rw [merge, hw, hlaid, put_of_lookup hw]
      exact ih fun e he => h e (List.mem_cons_of_mem f he)

theorem layOver_other (h : ∀ bs, below ≠ some (.map bs)) (v : Value) : layOver below v = v := by
  cases v with
  | map us =>
      rw [layOver]
      exact h
  | _ => simp only [layOver]

/-- **A value laid over something twice** is there as if it had been laid over it once. -/
theorem layOver_layOver (hv : v.EachMap Distinct) (hfind : v.EachMap Findable)
    (below : Option Value) : layOver (some (layOver below v)) v = layOver below v := by
  induction hv generalizing below with
  | scalar s => simp only [layOver]
  | list xs => simp only [layOver]
  | @map us once inside ih =>
      cases hfind with
      | map found hinside =>
          -- in both cases a merged map is merged into once more
          have hagain (bs : Entries) : merge (merge bs us) us = merge bs us := by
            refine merge_of_lookup fun e he => ⟨layOver (bs.lookup e.1) e.2, ?_, ?_⟩
            · rw [lookup_merge e.1 once, once.lookup_of_mem found he]
            · exact ih e he (hinside e he) (bs.lookup e.1)
          by_cases hbelow : ∃ bs, below = some (.map bs)
          · obtain ⟨bs, rfl⟩ := hbelow
            rw [layOver_map, layOver_map, hagain]
          · rw [layOver_other (not_exists.mp hbelow), layOver_map]
            have := hagain []
            rw [merge_nil_left once] at this
            rw [this]

/-! ## Paths -/

/-- **What stands at the end of a path after merging.** -/
theorem along?_layOver (hv : v.EachMap Distinct) (hp : ¬ v.Blocks p) (below : Option Value) :
    (layOver below v).along? p = match v.along? p with
      | some w => some (layOver (below.bind fun b => b.along? p) w)
      | none => below.bind fun b => b.along? p := by
  induction p generalizing v below with
  | nil =>
      cases below <;> rfl
  | cons k p ih =>
      obtain ⟨us, rfl⟩ : ∃ us, v = .map us := by
        by_contra h
        exact hp (Value.blocks_cons_iff.mpr (.inl (not_exists.mp h)))
      by_cases hbelow : ∃ bs, below = some (.map bs)
      · obtain ⟨bs, rfl⟩ := hbelow
        rw [layOver_map, Value.along?_cons, lookup_merge k hv.here, Option.bind_some,
          Value.along?_cons, Value.along?_cons]
        cases hw : us.lookup k with
        | none => rfl
        | some w =>
            exact ih (hv.of_lookup hw)
              (fun h => hp (Value.blocks_cons_iff.mpr (.inr ⟨us, w, rfl, hw, h⟩))) (bs.lookup k)
      · have hnone : (below.bind fun b => b.along? (k :: p)) = none := by
          rw [Option.bind_eq_none_iff]
          rintro b rfl
          exact Value.along?_cons_plain (fun bs hb => hbelow ⟨bs, hb ▸ rfl⟩) k
        rw [layOver_other (not_exists.mp hbelow), hnone]
        cases (Value.map us).along? (k :: p) with
        | none => rfl
        | some w => exact congrArg some (layOver_none w).symm

/-- What the upper map hides is not there after merging. -/
theorem along?_layOver_blocks (hv : v.EachMap Distinct) (hp : v.Blocks p) (below : Option Value) :
    (layOver below v).along? p = none := by
  obtain ⟨q, w, ⟨r, rfl⟩, hne, hq, hw⟩ := hp
  have hopen : ¬ v.Blocks q := fun h => by
    rw [h.along?] at hq
    cases hq
  refine Value.along?_append_plain (w := w) ?_ hw fun hr => hne (hr ▸ (List.append_nil q).symm)
  rw [along?_layOver hv hopen, hq]
  exact congrArg some (layOver_plain hw)

/-- **A map at the end of a path is made of the two that stood there**, an empty one standing in for
what was no map. -/
theorem eq_merge_of_along? (ho : v.EachMap Distinct) (b : Value) {ms : Entries}
    (h : (layOver (some b) v).along? p = some (.map ms)) :
    ms = merge (b.entriesAlong p) (v.entriesAlong p) := by
  by_cases hp : v.Blocks p
  · rw [along?_layOver_blocks ho hp] at h
    cases h
  · rw [along?_layOver ho hp, Option.bind_some] at h
    cases hw : v.along? p with
    | none =>
        rw [hw] at h
        simp only [Value.entriesAlong, hw, h, merge]
    | some w =>
        rw [hw] at h
        have hlaid : layOver (b.along? p) w = .map ms := Option.some.inj h
        obtain ⟨us, rfl⟩ : ∃ us, w = .map us := by
          by_contra hplain
          rw [layOver_plain (not_exists.mp hplain)] at hlaid
          exact hplain ⟨ms, hlaid⟩
        rw [Value.entriesAlong_of_map hw]
        by_cases hbelow : ∃ bs, b.along? p = some (.map bs)
        · obtain ⟨bs, hbs⟩ := hbelow
          rw [hbs, layOver_map] at hlaid
          rw [Value.entriesAlong_of_map hbs, Value.map.inj hlaid]
        · rw [layOver_other (not_exists.mp hbelow)] at hlaid
          rw [Value.entriesAlong_of_other (not_exists.mp hbelow),
            merge_nil_left (ho.of_along? hw).here, Value.map.inj hlaid]

/-- **Maps are merged path by path.** Where the upper map has another value than a map, that is what
stands there; where it has nothing and hides nothing, what the lower map has there; and where it has
a map, both maps merged, or the upper one if there is no other. Everywhere the lower map's keys come
first, then those of the upper one that are new, each in their order. Merging the same map once more
changes nothing, nor does an empty one on either side. -/
theorem merge_along (b o : Entries) (ho : (Value.map o).EachMap Distinct) :
    (∀ p,
      (∀ v, (Value.map o).along? p = some v → (∀ us, v ≠ .map us) →
        (Value.map (merge b o)).along? p = some v) ∧
      ((Value.map o).along? p = none → ¬ (Value.map o).Blocks p →
        (Value.map (merge b o)).along? p = (Value.map b).along? p) ∧
      ∀ us, (Value.map o).along? p = some (.map us) →
        (∀ bs, (Value.map b).along? p = some (.map bs) →
          (Value.map (merge b o)).along? p = some (.map (merge bs us))) ∧
        ((∀ bs, (Value.map b).along? p ≠ some (.map bs)) →
          (Value.map (merge b o)).along? p = some (.map us))) ∧
    (∀ p ms, (Value.map (merge b o)).along? p = some (.map ms) →
      ms.map (·.1) = ((Value.map b).entriesAlong p).map (·.1) ++
        (((Value.map o).entriesAlong p).filter fun e =>
          !Pairs.has ((Value.map b).entriesAlong p) e.1).map (·.1)) ∧
    ((Value.map o).EachMap Findable → merge (merge b o) o = merge b o) ∧
    merge b [] = b ∧ merge [] o = o := by
  have hlaid : layOver (some (.map b)) (.map o) = .map (merge b o) := layOver_map b o
  have hopen {p : List Scalar} {v : Value} (h : (Value.map o).along? p = some v) :
      (Value.map (merge b o)).along? p = some (layOver ((Value.map b).along? p) v) := by
    rw [← hlaid, along?_layOver ho, h, Option.bind_some]
    intro hp
    rw [hp.along?] at h
    cases h
  refine ⟨fun p => ⟨fun v hv hplain => ?_, fun hnone hp => ?_, fun us hus => ⟨?_, ?_⟩⟩,
    fun p ms hms => ?_, fun hfind => ?_, ?_, merge_nil_left ho.here⟩
  · rw [hopen hv, layOver_plain hplain]
  · rw [← hlaid, along?_layOver ho hp, hnone, Option.bind_some]
  · intro bs hbs
    rw [hopen hus, hbs, layOver_map]
  · intro hother
    rw [hopen hus, layOver_other hother]
  · rw [← hlaid] at hms
    rw [eq_merge_of_along? ho (.map b) hms]
    exact keys_merge (distinct_entriesAlong ho p) _
  · have hagain := layOver_layOver ho hfind (some (.map b))
    rw [layOver_map, layOver_map] at hagain
    exact Value.map.inj hagain
  · rw [merge]

/-- An example's map of three keys. -/
def lowerLayer : Entries :=
  [(.text "layout", .map [(.text "delay", .int 100), (.text "passes", .map [(.int 1, .text "a")])]),
    (.text "style", .text "s"), (.int 1, .text "one")]

/-- A map to lay over it. Its second key is the lower map's third. -/
def upperLayer : Entries :=
  [(.text "new", .map [(.null, .null)]), (.bool true, .map [(.text "k", .int 0)]),
    (.text "layout", .map [(.text "passes", .null), (.text "more", .int 3)])]

/-- The nested maps are merged; a map hides a text, and null hides a map. The key that is one for
both keeps its place and its first spelling. -/
theorem merge_along_layers :
    (Value.map upperLayer).EachMap Distinct ∧ (Value.map upperLayer).EachMap Findable ∧
      (Value.map (merge lowerLayer upperLayer)).along? [.text "layout", .text "delay"] =
        some (.int 100) ∧
      (Value.map (merge lowerLayer upperLayer)).along? [.text "layout", .text "passes"] =
        some .null ∧
      (Value.map (merge lowerLayer upperLayer)).along? [.int 1] =
        some (.map [(.text "k", .int 0)]) ∧
      (merge lowerLayer upperLayer).map (·.1) =
        [.text "layout", .text "style", .int 1, .text "new"] ∧
      merge (merge lowerLayer upperLayer) upperLayer = merge lowerLayer upperLayer := by
  have heach {P : Entries → Prop} (h : ∀ es ∈ [upperLayer, [(.null, .null)],
      [(.text "k", .int 0)], [(.text "passes", .null), (.text "more", .int 3)]], P es) :
      (Value.map upperLayer).EachMap P := by
    simp only [List.forall_mem_cons] at h
    obtain ⟨htop, hnull, hk, hlayout, -⟩ := h
    refine .map htop ?_
    simp only [upperLayer, List.forall_mem_cons]
    refine ⟨.map hnull ?_, .map hk ?_, .map hlayout ?_, nofun⟩
    all_goals simp only [List.forall_mem_cons]
    · exact ⟨.scalar _, nofun⟩
    · exact ⟨.scalar _, nofun⟩
    · exact ⟨.scalar _, .scalar _, nofun⟩
  have hdistinct : (Value.map upperLayer).EachMap Distinct := heach (by decide +kernel)
  have hfind : (Value.map upperLayer).EachMap Findable := heach (by decide +kernel)
  obtain ⟨hpath, hkeys, hagain, -, -⟩ := merge_along lowerLayer upperLayer hdistinct
  have hopen : ¬ (Value.map upperLayer).Blocks [.text "layout", .text "delay"] := by
    rw [Value.blocks_cons_iff]
    rintro (h | ⟨us, w, hus, hw, h⟩)
    · exact h _ rfl
    · cases hus
      obtain rfl := Option.some.inj hw
      obtain h | ⟨vs, u, hvs, hu, -⟩ := Value.blocks_cons_iff.mp h
      · exact h _ rfl
      · cases hvs
        cases hu
  refine ⟨hdistinct, hfind, ?_, ?_, ?_, ?_, hagain hfind⟩
  · exact (hpath _).2.1 rfl hopen
  · exact (hpath _).1 _ rfl nofun
  · exact ((hpath _).2.2 _ rfl).2 nofun
  · exact hkeys [] _ rfl

end Settings

/-! ## Data from files -/

namespace Entries

variable {es ws : Entries}

theorem distinct_iff_keys :
    es.Distinct ↔ (es.map (·.1)).Pairwise fun j k => (j == k) = false := by
  rw [List.pairwise_map, Distinct]

theorem Distinct.put (h : es.Distinct) (k : Scalar) (v : Value) :
    Distinct (Pairs.put es k v) := by
  rw [distinct_iff_keys] at h ⊢
  rw [Pairs.keys_put]
  cases hk : Pairs.has es k with
  | true => exact h
  | false =>
      rw [if_neg (by decide), List.pairwise_append]
      refine ⟨h, List.pairwise_singleton _ _, fun j hj l hl => ?_⟩
      obtain rfl := List.mem_singleton.mp hl
      obtain ⟨e, he, rfl⟩ := List.mem_map.mp hj
      exact eq_false_of_ne_true (List.any_eq_false.mp hk e he)

/-- A write brings in no value but its own. -/
theorem forall_put {P : Value → Prop} (hes : ∀ e ∈ es, P e.2) (k : Scalar) (hv : P v) :
    ∀ e ∈ Pairs.put es k v, P e.2 := by
  induction es with
  | nil => exact fun e he => List.mem_singleton.mp he ▸ hv
  | cons f r ih =>
      obtain ⟨hf, hr⟩ := List.forall_mem_cons.mp hes
      rw [Pairs.put]
      split
      · exact List.forall_mem_cons.mpr ⟨hv, hr⟩
      · exact List.forall_mem_cons.mpr ⟨hf, ih hr⟩

/-- What is written one after the other makes up a map of these values. -/
theorem distinct_putAll {P : Value → Prop} (hws : ∀ w ∈ ws, P w.2) :
    Distinct (Pairs.putAll [] ws) ∧ ∀ e ∈ Pairs.putAll [] ws, P e.2 :=
  List.foldlRecOn (motive := fun es : Entries => es.Distinct ∧ ∀ e ∈ es, P e.2) ws _
    ⟨.nil, List.forall_mem_nil _⟩ fun _ hes w hw =>
      ⟨hes.1.put w.1 w.2, forall_put hes.2 w.1 (hws w hw)⟩

end Entries

/-- **Each map in a value that was read has each key once.** -/
theorem Yaml.IsRead.eachMap_distinct : ∀ {v : Value}, IsRead v → v.EachMap Entries.Distinct
  | .scalar s, _ => .scalar s
  | .list xs, _ => .list xs
  | .map es, ⟨n, hn⟩ => by
      obtain ⟨pairs, taken, own, hpairs, hes⟩ := n.exists_pairs hn
      obtain ⟨honce, hread⟩ := Entries.distinct_putAll (isRead_of_pairValues pairs hpairs)
      rw [← hes] at honce hread
      exact .map honce fun e he => (hread e he).eachMap_distinct
termination_by v => sizeOf v
decreasing_by
  have := List.sizeOf_lt_of_mem he
  have : sizeOf e = 1 + sizeOf e.1 + sizeOf e.2 := by cases e; rfl
  simp only [Value.map.sizeOf_spec]
  omega

namespace Settings

open Entries

variable {d : Disk} {file : Path}

theorem eachMap_readData (h : readData d file = .ok v) : v.EachMap Distinct := by
  cases v with
  | scalar s => exact .scalar s
  | list xs => exact .list xs
  | map es =>
      obtain rfl | hread := exists_node_readData h
      · exact .map .nil (List.forall_mem_nil _)
      · exact Yaml.IsRead.eachMap_distinct hread

theorem overExample_eq (base v : Value) : overExample base v = layOver (some base) v := by
  unfold overExample
  split
  · exact (layOver_map _ _).symm
  · next h =>
    by_cases hv : ∃ fs, v = .map fs
    · obtain ⟨fs, rfl⟩ := hv
      refine (layOver_other (fun es hes => h es fs ?_ rfl) _).symm
      exact Option.some.inj hes
    · exact (layOver_plain (not_exists.mp hv)).symm

/-- **What a file has along a path, over its example.** -/
theorem along?_overExample (h : readData d file = .ok v) (hp : ¬ v.Blocks p) (base : Value) :
    (overExample base v).along? p = match v.along? p with
      | some w => some (layOver (base.along? p) w)
      | none => base.along? p := by
  rw [overExample_eq, along?_layOver (eachMap_readData h) hp]
  rfl

end Settings

end StickerPages
