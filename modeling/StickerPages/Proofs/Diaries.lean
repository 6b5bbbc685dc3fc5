import StickerPages.Timing.Pacer

/-!
# What a pacer owes

A diary of notices and sweeps, and what it must look like when every notice is answered by one sweep
a debounce later, unless another notice comes in between. The diary knows nothing of jobs and timers.

`Faithful` is what holds of it all along, also while the last notice still waits. The sections after
it write one entry each: a notice, a debounced sweep, a delayed sweep.
-/

namespace StickerPages.Timing

inductive Happening where
  | notice
  | swept (task : Task)
deriving DecidableEq, Repr

/-- What happened at which instant, the latest first. -/
abbrev Diary := List (Nat × Happening)

/-- The instant of the last notice, unless a debounced sweep has followed it. -/
def unanswered : Diary → Option Nat
  | [] => none
  | (t, .notice) :: _ => some t
  | (_, .swept .debounced) :: _ => none
  | (_, .swept .delayed) :: d => unanswered d

/-- How many sweeps of a kind there were. -/
def sweeps (task : Task) (d : Diary) : Nat := (d.map (·.2)).count (.swept task)

/-- No other notice comes before the sweep for this one is due. -/
def Calm (d : Diary) (debounce t : Nat) : Prop :=
  (t, .notice) ∈ d ∧ ∀ u, (u, .notice) ∈ d → ¬(t < u ∧ u < t + debounce)

/-- Some notice has not been followed by a debounced sweep. -/
def Waiting (d : Diary) : Prop :=
  ∃ later t earlier, d = later ++ (t, .notice) :: earlier ∧
    ∀ e ∈ later, e.2 ≠ .swept .debounced

theorem isSome_unanswered : ∀ d : Diary, (unanswered d).isSome = true ↔ Waiting d
  | [] => by simp [unanswered, Waiting]
  | (t, .notice) :: d => by
      simp only [unanswered, Option.isSome_some, true_iff]
      exact ⟨[], t, d, rfl, by simp⟩
  | (t, .swept .debounced) :: d => by
      simp only [unanswered, Option.isSome_none, Bool.false_eq_true, false_iff]
      rintro ⟨_ | ⟨e, later⟩, u, earlier, heq, hlater⟩
      · cases heq
      · exact hlater e List.mem_cons_self (by rw [← (List.cons.inj heq).1])
  | (t, .swept .delayed) :: d => by
      rw [unanswered, isSome_unanswered d]
      constructor
      · rintro ⟨later, u, earlier, rfl, hlater⟩
        exact ⟨(t, .swept .delayed) :: later, u, earlier, rfl,
          List.forall_mem_cons.mpr ⟨by simp, hlater⟩⟩
      · rintro ⟨_ | ⟨e, later⟩, u, earlier, heq, hlater⟩
        · cases heq
        · exact ⟨later, u, earlier, (List.cons.inj heq).2,
            fun e he => hlater e (List.mem_cons_of_mem _ he)⟩

/-- **What a diary says at an instant.** A debounced sweep answers a calm notice, unless that notice
is the one that still waits. -/
structure Faithful (debounce now : Nat) (d : Diary) : Prop where
  past : ∀ e ∈ d, e.1 ≤ now
  /-- The notice that waits is the last one. -/
  last : ∀ t, unanswered d = some t → (t, .notice) ∈ d ∧ ∀ u, (u, .notice) ∈ d → u ≤ t
  answers : ∀ i, (i, .swept .debounced) ∈ d ↔
    ∃ t, i = t + debounce ∧ Calm d debounce t ∧ unanswered d ≠ some t
  /-- No sweep is written twice. -/
  once : ∀ i task, d.count (i, .swept task) ≤ 1

variable {debounce now i : Nat} {d : Diary}

theorem Faithful.blank : Faithful debounce now [] :=
  ⟨by simp, by simp [unanswered], by simp [Calm], by simp⟩

theorem Faithful.later (h : Faithful debounce now d) {then_ : Nat} (hle : now ≤ then_) :
    Faithful debounce then_ d :=
  ⟨fun e he => Nat.le_trans (h.past e he) hle, h.last, h.answers, h.once⟩

theorem Faithful.past_cons (h : Faithful debounce now d) (what : Happening) :
    ∀ e ∈ (now, what) :: d, e.1 ≤ now :=
  List.forall_mem_cons.mpr ⟨Nat.le_refl now, h.past⟩

theorem Faithful.once_cons (h : Faithful debounce now d) {task : Task}
    (hnew : (now, .swept task) ∉ d) (i : Nat) (other : Task) :
    ((now, .swept task) :: d).count (i, .swept other) ≤ 1 := by
  rw [List.count_cons]
  split
  · rename_i heq
    rw [beq_iff_eq] at heq
    have hzero : d.count (i, .swept other) = 0 := heq ▸ List.count_eq_zero_of_not_mem hnew
    omega
  · exact h.once i other

/-! ## A notice -/

/-- A notice puts off the one that waits: it comes before that one's sweep is due. -/
theorem Faithful.notice (h : Faithful debounce now d) (hpos : 0 < debounce)
    (hearly : ∀ t, unanswered d = some t → now < t + debounce) :
    Faithful debounce now ((now, .notice) :: d) := by
  refine ⟨h.past_cons _, ?_, fun i => ?_, fun i task => ?_⟩
  · rintro t ⟨⟩
    exact ⟨List.mem_cons_self, fun u hu => h.past_cons .notice _ hu⟩
  · have hsame : (i, .swept .debounced) ∈ (now, .notice) :: d ↔ (i, .swept .debounced) ∈ d := by
      simp
    rw [hsame, h.answers]
    constructor
    · rintro ⟨t, rfl, ⟨hmem, hcalm⟩, hanswered⟩
      -- the sweep is past, and so the new notice does not come before it
      have hpast : t + debounce ≤ now :=
        h.past _ ((h.answers _).mpr ⟨t, rfl, ⟨hmem, hcalm⟩, hanswered⟩)
      refine ⟨t, rfl, ⟨List.mem_cons_of_mem _ hmem, fun u hu => ?_⟩, ?_⟩
      · rcases List.mem_cons.mp hu with hu | hu
        · cases hu
          omega
        · exact hcalm u hu
      · rw [unanswered, ne_eq, Option.some.injEq]
        omega
    · rintro ⟨t, rfl, ⟨hmem, hcalm⟩, hanswered⟩
      rw [unanswered, ne_eq, Option.some.injEq] at hanswered
      have hmem : (t, .notice) ∈ d := by
        rcases List.mem_cons.mp hmem with heq | hmem
        · cases heq
          exact absurd rfl hanswered
        · exact hmem
      have hpast : t ≤ now := h.past _ hmem
      have hnow : ¬(t < now ∧ now < t + debounce) := hcalm now List.mem_cons_self
      refine ⟨t, rfl, ⟨hmem, fun u hu => hcalm u (List.mem_cons_of_mem _ hu)⟩, fun hwaits => ?_⟩
      have := hearly t hwaits
      omega
  · rw [List.count_cons_of_ne (by simp)]
    exact h.once i task

/-! ## A debounced sweep -/

/-- The sweep for the notice that waits, when it is due. -/
theorem Faithful.debounced (h : Faithful debounce now d) {t : Nat} (hwaits : unanswered d = some t)
    (hdue : now = t + debounce) : Faithful debounce now ((now, .swept .debounced) :: d) := by
  obtain ⟨hlast, hleast⟩ := h.last t hwaits
  have hcalm_iff (u : Nat) : Calm ((now, .swept .debounced) :: d) debounce u ↔
      Calm d debounce u := by
    simp [Calm]
  -- nothing waits any more: this sweep answers the last notice, and others answered the rest
  refine ⟨h.past_cons _, by simp [unanswered], fun i => ?_, h.once_cons fun hmem => ?_⟩
  · simp only [hcalm_iff, unanswered, ne_eq, reduceCtorEq, not_false_eq_true, and_true]
    rw [List.mem_cons, h.answers]
    constructor
    · rintro (heq | ⟨u, rfl, hcalm, _⟩)
      · cases heq
        refine ⟨t, hdue, hlast, fun u hu hbetween => ?_⟩
        have := hleast u hu
        omega
      · exact ⟨u, rfl, hcalm⟩
    · rintro ⟨u, rfl, hcalm⟩
      by_cases hu : u = t
      · left
        rw [hu, hdue]
      · right
        refine ⟨u, rfl, hcalm, ?_⟩
        rw [hwaits, ne_eq, Option.some.injEq]
        exact fun heq => hu heq.symm
  · obtain ⟨u, hu, _, hanswered⟩ := (h.answers now).mp hmem
    exact hanswered (hwaits.trans (congrArg some (by omega)))

/-! ## A delayed sweep -/

theorem Faithful.delayed (h : Faithful debounce now d) (hnew : (now, .swept .delayed) ∉ d) :
    Faithful debounce now ((now, .swept .delayed) :: d) := by
  refine ⟨h.past_cons _, fun t ht => ?_, fun i => ?_, h.once_cons hnew⟩
  · simpa using h.last t ht
  · simpa [Calm, unanswered] using h.answers i

end StickerPages.Timing
