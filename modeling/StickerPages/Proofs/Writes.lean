import Mathlib.Data.List.Induction
import Mathlib.Data.List.Nodup
import StickerPages.Pairs

/-!
# Several writes

What one write after another leaves in a map that remembers its order. A key that is there keeps its
place, so writes to different keys do not disturb each other (`put_comm`). From this come the two
facts that a map is written and read again by: to write its own pairs one by one gives the map
(`putAll_of_nodup`), and of two rounds of writes to the same keys only the second counts
(`putAll_putAll`). What a map made by writes holds is said by the writes alone: its keys in the order of
their first write (`keys_putAll`), each with the value of its last (`lookup_putAll`).
-/

namespace StickerPages.Pairs

variable {κ ν : Type} [BEq κ] [LawfulBEq κ]

/-! ## One write after another -/

omit [LawfulBEq κ] in
@[simp] theorem has_cons (e : κ × ν) (es : List (κ × ν)) (k : κ) :
    has (e :: es) k = (e.1 == k || has es k) := rfl

theorem has_iff {es : List (κ × ν)} {k : κ} : has es k = true ↔ k ∈ es.map (·.1) := by
  induction es with
  | nil => simp [has]
  | cons e r ih =>
    rw [has_cons, Bool.or_eq_true, beq_iff_eq, ih, List.map_cons, List.mem_cons, eq_comm]

theorem put_put (es : List (κ × ν)) (k : κ) (v w : ν) : put (put es k v) k w = put es k w := by
  induction es with
  | nil => simp [put]
  | cons e r ih =>
    obtain ⟨l, u⟩ := e
    by_cases h : l == k
    · simp [put, h]
    · simp [put, h, ih]

/-- A key that is there already is written before another one or after it. -/
theorem put_comm {es : List (κ × ν)} {j k : κ} (hk : has es k = true) (hj : j ≠ k) (v w : ν) :
    put (put es j w) k v = put (put es k v) j w := by
  induction es with
  | nil => cases hk
  | cons e r ih =>
    obtain ⟨l, u⟩ := e
    by_cases hlk : l = k
    · subst hlk
      have hjl : (l == j) = false := by simpa using fun h => hj h.symm
      simp [put, hjl]
    · have hlk' : (l == k) = false := by simpa using hlk
      have hr : has r k = true := by simpa [hlk'] using hk
      by_cases hlj : l = j
      · subst hlj
        simp [put, hlk']
      · have hlj' : (l == j) = false := by simpa using hlj
        simp [put, hlk', hlj', ih hr]

theorem has_put_self (es : List (κ × ν)) (k : κ) (v : ν) : has (put es k v) k = true := by
  rw [has_iff, keys_put]
  split
  · next h => exact has_iff.mp h
  · simp

theorem has_put {es : List (κ × ν)} {k : κ} (h : has es k = true) (j : κ) (v : ν) :
    has (put es j v) k = true := by
  rw [has_iff, keys_put]
  have hk := has_iff.mp h
  split
  · exact hk
  · exact List.mem_append_left _ hk

/-! ## Keys and look-ups -/

theorem nodup_keys_put {es : List (κ × ν)} (hd : (es.map (·.1)).Nodup) (k : κ) (v : ν) :
    ((put es k v).map (·.1)).Nodup := by
  rw [keys_put]
  split
  · exact hd
  · next hk =>
    rw [List.nodup_append]
    refine ⟨hd, List.nodup_singleton k, ?_⟩
    rintro a ha b hb rfl
    exact hk (has_iff.mpr (List.mem_singleton.mp hb ▸ ha))

theorem nodup_keys_putAll (ws : List (κ × ν)) :
    ∀ {es : List (κ × ν)}, (es.map (·.1)).Nodup → ((putAll es ws).map (·.1)).Nodup := by
  induction ws with
  | nil => exact fun hd => hd
  | cons w r ih => exact fun hd => ih (nodup_keys_put hd w.1 w.2)

theorem lookup_putAll_other (ws : List (κ × ν)) {k : κ} (hk : k ∉ ws.map (·.1)) :
    ∀ es : List (κ × ν), (putAll es ws).lookup k = es.lookup k := by
  induction ws with
  | nil => exact fun _ => rfl
  | cons w r ih =>
    intro es
    rw [List.map_cons, List.mem_cons, not_or] at hk
    exact (ih hk.2 _).trans (lookup_put_other es w.2 hk.1)

/-- What is written last under different keys is there. -/
theorem lookup_putAll_of_mem (ws : List (κ × ν)) (hn : (ws.map (·.1)).Nodup) {w : κ × ν}
    (hw : w ∈ ws) : ∀ es : List (κ × ν), (putAll es ws).lookup w.1 = some w.2 := by
  induction ws with
  | nil => exact absurd hw List.not_mem_nil
  | cons u r ih =>
    intro es
    rw [List.map_cons, List.nodup_cons] at hn
    rcases List.mem_cons.mp hw with rfl | hw
    · exact (lookup_putAll_other r hn.1 _).trans (lookup_put_self ..)
    · exact ih hn.2 hw _

omit [LawfulBEq κ] in
theorem putAll_concat (es ws : List (κ × ν)) (w : κ × ν) :
    putAll es (ws ++ [w]) = put (putAll es ws) w.1 w.2 := by
  rw [putAll, List.foldl_append]
  rfl

/-- **Of several writes to one key the last counts.** -/
theorem lookup_putAll (ws : List (κ × ν)) (k : κ) :
    (putAll [] ws).lookup k = ws.reverse.lookup k := by
  induction ws using List.reverseRecOn with
  | nil => rfl
  | append_singleton ws w ih =>
    rw [putAll_concat, List.reverse_append, List.reverse_singleton, List.singleton_append, List.lookup_cons]
    by_cases hk : k = w.1
    · rw [hk, lookup_put_self, beq_self_eq_true]
    · rw [lookup_put_other _ w.2 hk, ih, beq_eq_false_iff_ne.mpr hk]

/-- **The keys stand in the order in which they were first written.** -/
theorem keys_putAll (ws : List (κ × ν)) :
    (putAll [] ws).map (·.1) = (ws.map (·.1)).eraseDups := by
  induction ws using List.reverseRecOn with
  | nil => rfl
  | append_singleton ws w ih =>
    rw [putAll_concat, keys_put, List.map_append, List.eraseDups_append, ih]
    by_cases hk : w.1 ∈ ws.map (·.1)
    · have hhas : has (putAll [] ws) w.1 = true := by
        rw [has_iff, ih]
        exact List.mem_eraseDups.mpr hk
      simp [hhas, List.removeAll, hk]
    · have hnot : has (putAll [] ws) w.1 = false := by
        rw [Bool.eq_false_iff, Ne, has_iff, ih, List.mem_eraseDups]
        exact hk
      simp [hnot, List.removeAll, hk, List.eraseDups_cons]

/-! ## What a write or a removal leaves -/

/-- Entries at other keys are left in their order. -/
theorem filter_put {p : κ → Bool} {k : κ} (hk : p k = false) (es : List (κ × ν)) (v : ν) :
    (put es k v).filter (fun e => p e.1) = es.filter fun e => p e.1 := by
  induction es with
  | nil => simp [put, hk]
  | cons e r ih =>
    obtain ⟨l, u⟩ := e
    by_cases h : l = k
    · subst h
      simp [put, hk]
    · have h' : (l == k) = false := by simpa using h
      simp [put, h', List.filter_cons, ih]

theorem filter_erase {p : κ → Bool} {k : κ} (hk : p k = false) (es : List (κ × ν)) :
    (erase es k).filter (fun e => p e.1) = es.filter fun e => p e.1 := by
  rw [erase, List.filter_filter]
  refine List.filter_congr fun e _ => ?_
  by_cases h : e.1 = k
  · simp [h, hk]
  · simp [h]

theorem erase_put_self (es : List (κ × ν)) (k : κ) (v : ν) : erase (put es k v) k = erase es k :=
  filter_put (p := fun l => !(l == k)) (by simp) es v

theorem erase_put_other {j k : κ} (hj : j ≠ k) (es : List (κ × ν)) (v : ν) :
    erase (put es k v) j = put (erase es j) k v := by
  induction es with
  | nil =>
    have hkj : (k == j) = false := by simpa using hj.symm
    simp [erase, put, hkj]
  | cons e r ih =>
    obtain ⟨l, u⟩ := e
    have ih : (put r k v).filter (fun e => !(e.1 == j)) =
        put (r.filter fun e => !(e.1 == j)) k v := ih
    by_cases hl : l = k
    · subst hl
      have hlj : (l == j) = false := by simpa using hj.symm
      simp [erase, put, hlj]
    · have hl' : (l == k) = false := by simpa using hl
      by_cases hlj : l = j
      · subst hlj
        simpa [erase, put, hl'] using ih
      · have hlj' : (l == j) = false := by simpa using hlj
        simp [erase, put, hl', hlj', ih]

omit [LawfulBEq κ] in
theorem erase_comm (es : List (κ × ν)) (j k : κ) : erase (erase es j) k = erase (erase es k) j := by
  rw [erase, erase, List.filter_filter, erase, erase, List.filter_filter]
  exact List.filter_congr fun e _ => Bool.and_comm _ _

theorem lookup_erase_other {j k : κ} (hj : j ≠ k) (es : List (κ × ν)) :
    (erase es k).lookup j = es.lookup j := by
  induction es with
  | nil => rfl
  | cons e r ih =>
    obtain ⟨l, u⟩ := e
    have ih : (r.filter fun e => !(e.1 == k)).lookup j = r.lookup j := ih
    by_cases h : l = k
    · subst h
      have hjl : (j == l) = false := by simpa using hj
      simp [erase, List.lookup_cons, hjl, ih]
    · have h' : (l == k) = false := by simpa using h
      simp [erase, h', List.lookup_cons, ih]

/-! ## Rounds of writes -/

omit [LawfulBEq κ] in
theorem put_of_not_has {es : List (κ × ν)} {k : κ} (h : has es k = false) (v : ν) :
    put es k v = es ++ [(k, v)] := by
  induction es with
  | nil => rfl
  | cons e r ih =>
    obtain ⟨l, u⟩ := e
    obtain ⟨hl, hr⟩ := Bool.or_eq_false_iff.mp h
    have hl : (l == k) = false := hl
    simp [put, hl, ih hr]

/-- What is there after a write was written, or it was there before at another key. -/
theorem mem_put {es : List (κ × ν)} (hn : (es.map (·.1)).Nodup) {k : κ} {v : ν} {e : κ × ν}
    (h : e ∈ put es k v) : e = (k, v) ∨ e ∈ es ∧ e.1 ≠ k := by
  induction es with
  | nil => exact .inl (List.mem_singleton.mp h)
  | cons u r ih =>
    obtain ⟨l, w⟩ := u
    rw [List.map_cons, List.nodup_cons] at hn
    by_cases hl : l = k
    · subst hl
      rw [put, if_pos (beq_self_eq_true l)] at h
      rcases List.mem_cons.mp h with rfl | h
      · exact .inl rfl
      · refine .inr ⟨List.mem_cons_of_mem _ h, fun he => hn.1 ?_⟩
        have hmem : e.1 ∈ r.map (·.1) := List.mem_map_of_mem h
        exact he ▸ hmem
    · rw [put, if_neg (by simpa using hl)] at h
      rcases List.mem_cons.mp h with rfl | h
      · exact .inr ⟨List.mem_cons_self, hl⟩
      · exact (ih hn.2 h).imp_right (And.imp_left (List.mem_cons_of_mem _))

theorem mem_putAll (ws : List (κ × ν)) :
    ∀ {es : List (κ × ν)}, (es.map (·.1)).Nodup → ∀ {e : κ × ν}, e ∈ putAll es ws →
      e ∈ ws ∨ e ∈ es ∧ e.1 ∉ ws.map (·.1) := by
  induction ws with
  | nil => exact fun _ _ he => .inr ⟨he, List.not_mem_nil⟩
  | cons w r ih =>
    intro es hn e he
    rcases ih (nodup_keys_put hn w.1 w.2) he with he | ⟨he, hr⟩
    · exact .inl (List.mem_cons_of_mem w he)
    · rcases mem_put hn he with rfl | ⟨he, hne⟩
      · exact .inl List.mem_cons_self
      · exact .inr ⟨he, by simpa using ⟨hne, by simpa using hr⟩⟩

/-- New keys come last, in their order. -/
theorem putAll_of_disjoint (ws : List (κ × ν)) (hn : (ws.map (·.1)).Nodup) :
    ∀ es : List (κ × ν), (∀ w ∈ ws, w.1 ∉ es.map (·.1)) → putAll es ws = es ++ ws := by
  induction ws with
  | nil => exact fun es _ => (List.append_nil es).symm
  | cons w r ih =>
    intro es hes
    rw [List.map_cons, List.nodup_cons] at hn
    have hnew : has es w.1 = false := by
      rw [Bool.eq_false_iff]
      exact fun h => hes w List.mem_cons_self (has_iff.mp h)
    have hrest : ∀ u ∈ r, u.1 ∉ (es ++ [w]).map (·.1) := by
      intro u hu hmem
      rw [List.map_append, List.mem_append] at hmem
      rcases hmem with hmem | hmem
      · exact hes u (List.mem_cons_of_mem w hu) hmem
      · have huw : u.1 = w.1 := List.mem_singleton.mp hmem
        exact hn.1 (huw ▸ List.mem_map_of_mem hu)
    have hput : putAll es (w :: r) = putAll (es ++ [w]) r :=
      congrArg (putAll · r) (put_of_not_has hnew w.2)
    rw [hput, ih hn.2 _ hrest, List.append_assoc]
    rfl

theorem putAll_of_nodup {ws : List (κ × ν)} (hn : (ws.map (·.1)).Nodup) : putAll [] ws = ws :=
  putAll_of_disjoint ws hn [] fun _ _ => List.not_mem_nil

/-- Writes to other keys do not disturb one to a key that is there. -/
theorem put_putAll {k : κ} (ws : List (κ × ν)) (hk : k ∉ ws.map (·.1)) (v : ν) :
    ∀ {es : List (κ × ν)}, has es k = true →
      put (putAll es ws) k v = putAll (put es k v) ws := by
  induction ws with
  | nil => exact fun _ => rfl
  | cons w r ih =>
    intro es hes
    rw [List.map_cons, List.mem_cons, not_or] at hk
    have hcomm := put_comm hes (Ne.symm hk.1) v w.2
    exact (ih hk.2 (has_put hes w.1 w.2)).trans (congrArg (putAll · r) hcomm)

/-- Of two rounds of writes to the same keys the second counts. -/
theorem putAll_putAll {us ws : List (κ × ν)} (hkeys : us.map (·.1) = ws.map (·.1))
    (hn : (us.map (·.1)).Nodup) :
    ∀ es : List (κ × ν), putAll (putAll es us) ws = putAll es ws := by
  induction us generalizing ws with
  | nil =>
    intro es
    obtain rfl : ws = [] := List.map_eq_nil_iff.mp hkeys.symm
    rfl
  | cons u r ih =>
    intro es
    cases ws with
    | nil => cases hkeys
    | cons w t =>
      obtain ⟨huw, hrt⟩ := List.cons.inj hkeys
      rw [List.map_cons, List.nodup_cons] at hn
      show putAll (put (putAll (put es u.1 u.2) r) w.1 w.2) t = putAll (put es w.1 w.2) t
      rw [← show u.1 = w.1 from huw, put_putAll r hn.1 w.2 (has_put_self es u.1 u.2), put_put]
      exact ih hrt hn.2 _

end StickerPages.Pairs
