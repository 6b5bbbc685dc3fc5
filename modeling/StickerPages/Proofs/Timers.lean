import StickerPages.Timing.Pacer

/-!
# What is in a timer

A timer's jobs go by name: a job that is put takes the place of the job of its name and of no other,
so a timer never holds two jobs of one name. The jobs of an instant come out in the order of their
times, and of two jobs at one time the one comes first whose name does. With an exact clock the next
instant at which anything happens is the least at which a job is due.

The last section is about the names that a pacer gives: no two delays share a name, and the debounce
job is the first of all jobs at an instant.
-/

namespace StickerPages.Timing

variable {α : Type}

/-- No two of these jobs have one name. -/
def Named (jobs : List (Job α)) : Prop := (jobs.map (·.id)).Nodup

namespace Timer

variable (t : Timer α)

/-! ## Putting -/

theorem mem_put {id : String} {delay : Nat} {task : α} {j : Job α} :
    j ∈ (t.put id delay task).jobs ↔
      (j ∈ t.jobs ∧ j.id ≠ id) ∨ j = ⟨id, t.now + delay, task⟩ := by
  simp [put]

/-- Putting a job beside jobs of other names, some of which are in nobody's table any more. -/
theorem put_named {id : String} {delay : Nat} {task : α} {hand : List (Job α)}
    (hand_other : ∀ j ∈ hand, j.id ≠ id) (h : Named (t.jobs ++ hand)) :
    Named ((t.put id delay task).jobs ++ hand) := by
  unfold Named put at *
  simp only [List.map_append, List.nodup_append, List.map_cons, List.map_nil] at h ⊢
  obtain ⟨hjobs, hhand, hapart⟩ := h
  have hkept : ((t.jobs.filter (·.id != id)).map (·.id)).Nodup :=
    hjobs.sublist (List.filter_sublist.map _)
  refine ⟨⟨hkept, by simp, ?_⟩, hhand, ?_⟩
  · rintro a ha b hb rfl
    obtain ⟨j, hj, rfl⟩ := List.mem_map.mp ha
    simp [List.mem_singleton.mp hb] at hj
  · intro a ha b hb
    rcases List.mem_append.mp ha with ha | ha
    · exact hapart a ((List.filter_sublist.map _).subset ha) b hb
    · obtain ⟨j, hj, rfl⟩ := List.mem_map.mp hb
      rw [List.mem_singleton.mp ha]
      exact (hand_other j hj).symm

theorem dropAll_eq (ids : List String) :
    t.dropAll ids = { t with jobs := t.jobs.filter fun j => !ids.contains j.id } := by
  induction ids generalizing t with
  | nil =>
      have hall : (t.jobs.filter fun j => !([] : List String).contains j.id) = t.jobs :=
        List.filter_eq_self.mpr fun _ _ => rfl
      rw [hall]
      rfl
  | cons id r ih =>
      rw [dropAll, List.foldl_cons, ← dropAll, ih]
      simp only [drop, List.filter_filter, List.contains_cons, Bool.not_or, bne, Bool.and_comm]

theorem mem_dropAll {ids : List String} {j : Job α} :
    j ∈ (t.dropAll ids).jobs ↔ j ∈ t.jobs ∧ j.id ∉ ids := by
  simp [dropAll_eq]

/-! ## Taking out -/

theorem before_trans (a b c : Job α) (hab : before a b = true) (hbc : before b c = true) :
    before a c = true := by
  simp only [before, Bool.or_eq_true, Bool.and_eq_true, decide_eq_true_eq, beq_iff_eq,
    Bool.not_eq_true', decide_eq_false_iff_not, String.not_lt] at *
  rcases hab with hab | ⟨hab, hid⟩ <;> rcases hbc with hbc | ⟨hbc, hid'⟩
  · exact .inl (by omega)
  · exact .inl (by omega)
  · exact .inl (by omega)
  · exact .inr ⟨by omega, String.le_trans hid hid'⟩

theorem before_total (a b : Job α) : (before a b || before b a) = true := by
  simp only [before, Bool.or_eq_true, Bool.and_eq_true, decide_eq_true_eq, beq_iff_eq,
    Bool.not_eq_true', decide_eq_false_iff_not, String.not_lt]
  rcases Nat.lt_trichotomy a.due b.due with h | h | h
  · exact .inl (.inl h)
  · exact (String.le_total a.id b.id).imp (fun hid => .inr ⟨h, hid⟩) fun hid => .inr ⟨h.symm, hid⟩
  · exact .inr (.inl h)

theorem mem_takeDue {instant : Nat} {j : Job α} :
    j ∈ (t.takeDue instant).1 ↔ j ∈ t.jobs ∧ j.due ≤ instant := by
  simp [takeDue, List.mem_mergeSort]

theorem mem_takeDue_left {instant : Nat} {j : Job α} :
    j ∈ (t.takeDue instant).2.jobs ↔ j ∈ t.jobs ∧ instant < j.due := by
  simp [takeDue]

theorem takeDue_sorted (instant : Nat) :
    (t.takeDue instant).1.Pairwise fun a b => before a b = true :=
  List.pairwise_mergeSort before_trans before_total _

/-- What is taken out and what stays behind is what there was. -/
theorem takeDue_perm (instant : Nat) :
    ((t.takeDue instant).2.jobs ++ (t.takeDue instant).1).Perm t.jobs := by
  have hleft : (t.takeDue instant).2.jobs = t.jobs.filter fun j => !decide (j.due ≤ instant) :=
    List.filter_congr fun j _ => by simp only [← Nat.not_le, decide_not]
  rw [hleft]
  exact List.perm_append_comm.trans
    (((List.mergeSort_perm _ _).append_right _).trans (List.filter_append_perm _ _))

theorem takeDue_named (instant : Nat) (h : Named t.jobs) :
    Named ((t.takeDue instant).2.jobs ++ (t.takeDue instant).1) :=
  ((t.takeDue_perm instant).map _).nodup_iff.mpr h

/-! ## The next instant -/

variable {t} {instant due : Nat}

theorem nextRung?_eq_filter (hclock : t.clock = .exact) :
    t.nextRung? instant = t.nextDue?.filter (· ≤ instant) := by
  unfold nextRung?
  congr 1
  funext due
  simp only [rung, hclock, Clock.late, Bool.not_false, Bool.and_true]
  grind

/-- The next instant is that of the first job that is due. -/
theorem nextRung?_eq_some (hclock : t.clock = .exact) (h : t.nextRung? instant = some due) :
    due ≤ instant ∧ (∃ j ∈ t.jobs, j.due = due) ∧ ∀ j ∈ t.jobs, due ≤ j.due := by
  rw [nextRung?_eq_filter hclock, Option.filter_eq_some_iff] at h
  obtain ⟨hnext, hle⟩ := h
  unfold nextDue? at hnext
  split at hnext
  · obtain ⟨hmem, hleast⟩ := List.min?_eq_some_iff.mp hnext
    exact ⟨by simpa using hle, by simpa using hmem, fun j hj => hleast _ (List.mem_map_of_mem hj)⟩
  · cases hnext

theorem nextRung?_eq_none (hclock : t.clock = .exact) (hrunning : t.running = true)
    (h : t.nextRung? instant = none) : ∀ j ∈ t.jobs, instant < j.due := by
  intro j hj
  rw [nextRung?_eq_filter hclock, nextDue?, if_pos hrunning] at h
  cases hmin : (t.jobs.map (·.due)).min? with
  | none =>
      rw [List.min?_eq_none_iff, List.map_eq_nil_iff] at hmin
      rw [hmin] at hj
      cases hj
  | some least =>
      rw [hmin, Option.filter_eq_none_iff] at h
      have hlater := h least rfl
      have hleast := (List.min?_eq_some_iff.mp hmin).2 _ (List.mem_map_of_mem hj)
      simp only [decide_eq_true_eq] at hlater
      omega

end Timer

/-! ## A pacer's names -/

theorem delayedJob_inj {c d : Nat} (h : delayedJob c = delayedJob d) : c = d := by
  have hspelt : Nat.repr c = Nat.repr d := (String.append_right_inj _).mp h
  rw [Nat.repr_eq_ofList_toDigits, Nat.repr_eq_ofList_toDigits, String.ofList_inj] at hspelt
  have hread := congrArg (Nat.ofDigitChars 10 · 0) hspelt
  simpa only [Nat.ofDigitChars_ten_toDigits] using hread

/-- Of all a pacer's jobs the debounce job comes first. -/
theorem debounceJob_lt (delay : Nat) : debounceJob < delayedJob delay := by
  -- the names part at their eleventh letter
  have hdebounce : debounceJob.toList = "sticker-de".toList ++ 'b' :: "ounce-sweep".toList := by
    decide +kernel
  have hfront : "sticker-delayed-sweep-".toList =
      "sticker-de".toList ++ 'l' :: "ayed-sweep-".toList := by decide +kernel
  have hdelayed : (delayedJob delay).toList =
      "sticker-de".toList ++ 'l' :: ("ayed-sweep-".toList ++ (toString delay).toList) := by
    calc
      _ = "sticker-delayed-sweep-".toList ++ (toString delay).toList := String.toList_append
      _ = _ := by rw [hfront, List.append_assoc, List.cons_append]
  rw [String.lt_iff, hdebounce, hdelayed]
  exact List.append_left_lt (List.cons_lt_cons_iff.mpr (.inl (by decide)))

end StickerPages.Timing
