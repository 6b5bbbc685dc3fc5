import Mathlib.Data.List.Nodup
import StickerPages.Proofs.Timers

/-!
# Rounds of a timer

Whatever has a timer lets time pass in rounds: the jobs of the next instant at which one is due are
taken out together and done in their order, and then those of the next. `Worker` is anything that
works in this way.

A pacer that shares a timer has some of its jobs. If doing a job touches neither the timer nor
anybody else's books (`Serves`), rounds come to the same for this pacer as doing those of its own jobs
that are due, in their order, in one go (`Serves.rounds`); it does not matter what other jobs there
are, nor at which instants.
-/

namespace StickerPages.Timing

variable {σ α : Type}

/-- Something that has a timer and does its jobs. -/
structure Worker (σ α : Type) where
  timer : σ → Timer α
  retimed : σ → Timer α → σ
  perform : σ → α → σ

namespace Worker

variable (m : Worker σ α)

/-- Takes out the jobs of one instant and does them. -/
def runInstant (instant : Nat) (s : σ) : σ :=
  let since := (m.timer s).since
  let (jobs, timer) := { m.timer s with now := instant }.takeDue instant
  let s := (jobs.map (·.task)).foldl m.perform (m.retimed s timer)
  m.retimed s { m.timer s with since }

def runRounds : Nat → Nat → σ → σ
  | 0, _, s => s
  | rounds + 1, instant, s =>
    match (m.timer s).nextRung? instant with
    | some due => runRounds rounds instant (m.runInstant (max (m.timer s).now due) s)
    | none => s

/-- Lets time pass. -/
def advance (ms : Nat) (s : σ) : σ :=
  let instant := (m.timer s).now + ms
  let s := m.runRounds (2 * ms + (m.timer s).jobs.length + 2) instant s
  m.retimed s { m.timer s with now := instant }

end Worker

/-! ## A pacer's part of a timer -/

/-- A pacer after one of its tasks. -/
def Pacer.done (p : Pacer) : Task → Pacer
  | .debounced => { p with pending := false }.count "debounce"
  | .delayed => p.count "delayed"

/-- What a job is to a pacer, if it is its own. -/
def own? (task? : α → Option Task) (j : Job α) : Option (Job Task) :=
  (task? j.task).map fun task => ⟨j.id, j.due, task⟩

/-- The jobs of a pacer among others. -/
def agenda (task? : α → Option Task) (t : Timer α) : List (Job Task) :=
  t.jobs.filterMap (own? task?)

/-- A pacer's jobs in the order in which they are done. -/
def inOrder (jobs : List (Job Task)) : List (Job Task) := jobs.mergeSort Timer.before

/-- The books of a pacer that has done these jobs. -/
def allDone (p : Pacer) (jobs : List (Job Task)) : Pacer :=
  jobs.foldl (fun p j => p.done j.task) p

section

variable {task? : α → Option Task} {t : Timer α}

theorem own?_eq_some {j : Job α} {k : Job Task} (h : own? task? j = some k) :
    k.id = j.id ∧ k.due = j.due ∧ task? j.task = some k.task := by
  obtain ⟨task, htask, rfl⟩ := Option.map_eq_some_iff.mp h
  exact ⟨rfl, rfl, htask⟩

/-- Names and times of a pacer's jobs are those in the timer. -/
theorem filterMap_filter (p : String → Nat → Bool) (jobs : List (Job α)) :
    (jobs.filter fun j => p j.id j.due).filterMap (own? task?) =
      (jobs.filterMap (own? task?)).filter fun j => p j.id j.due := by
  induction jobs with
  | nil => rfl
  | cons j r ih =>
      cases hj : own? task? j with
      | none => cases hp : p j.id j.due <;> simp [hj, hp, ih]
      | some k =>
          obtain ⟨hid, hdue, _⟩ := own?_eq_some hj
          cases hp : p j.id j.due <;> simp [hj, hp, hid, hdue, ih]

/-- The jobs that are left to a pacer when those up to some instant are gone. -/
theorem agenda_later (task? : α → Option Task) {t later : Timer α} {d : Nat}
    (hlater : later.jobs = t.jobs.filter fun j => d < j.due) :
    agenda task? later = (agenda task? t).filter fun j => d < j.due := by
  rw [agenda, hlater]
  exact filterMap_filter (fun _ due => d < due) t.jobs

theorem named_filterMap {jobs : List (Job α)} (h : Named jobs) :
    Named (jobs.filterMap (own? task?)) := by
  have hsub : ((jobs.filterMap (own? task?)).map (·.id)).Sublist (jobs.map (·.id)) := by
    clear h
    induction jobs with
    | nil => exact List.Sublist.slnil
    | cons j r ih =>
        cases hj : own? task? j with
        | none =>
            rw [List.filterMap_cons_none hj]
            exact ih.cons _
        | some k =>
            rw [List.filterMap_cons_some hj, List.map_cons, List.map_cons, (own?_eq_some hj).1]
            exact ih.cons_cons _
  exact h.sublist hsub

/-! ## Order -/

/-- Jobs with names of their own have one order. -/
theorem eq_of_before {l₁ l₂ : List (Job Task)} (hnamed : Named l₁)
    (h₁ : l₁.Pairwise fun a b => Timer.before a b = true)
    (h₂ : l₂.Pairwise fun a b => Timer.before a b = true) (hperm : l₁.Perm l₂) : l₁ = l₂ := by
  refine hperm.eq_of_pairwise (fun a b ha hb hab hba => ?_) h₁ h₂
  refine List.inj_on_of_nodup_map hnamed ha (hperm.mem_iff.mpr hb) ?_
  simp only [Timer.before, Bool.or_eq_true, Bool.and_eq_true, decide_eq_true_eq, beq_iff_eq,
    Bool.not_eq_true', decide_eq_false_iff_not, String.not_lt] at hab hba
  rcases hab with hab | ⟨_, hab⟩ <;> rcases hba with hba | ⟨_, hba⟩
  · omega
  · omega
  · omega
  · exact String.le_antisymm hab hba

theorem inOrder_sorted (jobs : List (Job Task)) :
    (inOrder jobs).Pairwise fun a b => Timer.before a b = true :=
  List.pairwise_mergeSort Timer.before_trans Timer.before_total _

/-- The jobs up to some instant come first. -/
theorem inOrder_split {jobs hand : List (Job Task)} (hnamed : Named jobs) (d : Nat)
    (hsorted : hand.Pairwise fun a b => Timer.before a b = true)
    (hhand : hand.Perm (jobs.filter (·.due ≤ d))) :
    inOrder jobs = hand ++ inOrder (jobs.filter fun j => d < j.due) := by
  have hperm : (inOrder jobs).Perm (hand ++ inOrder (jobs.filter fun j => d < j.due)) := by
    have hnot : (jobs.filter fun j => decide (d < j.due)) =
        jobs.filter fun j => !decide (j.due ≤ d) :=
      List.filter_congr fun j _ => by simp only [← Nat.not_le, decide_not]
    refine (List.mergeSort_perm _ _).trans
      ((List.filter_append_perm (·.due ≤ d) jobs).symm.trans ?_)
    rw [← hnot]
    exact hhand.symm.append (List.mergeSort_perm _ _).symm
  -- both sides are in order and have the same jobs
  have hnames : Named (inOrder jobs) := ((List.mergeSort_perm _ _).map _).nodup_iff.mpr hnamed
  refine eq_of_before hnames (inOrder_sorted jobs) ?_ hperm
  refine List.pairwise_append.mpr ⟨hsorted, inOrder_sorted _, fun a ha b hb => ?_⟩
  have hle : a.due ≤ d := by
    simpa using (List.mem_filter.mp (hhand.mem_iff.mp ha)).2
  have hlt : d < b.due := by
    simpa using (List.mem_filter.mp (List.mem_mergeSort.mp hb)).2
  simp only [Timer.before, Bool.or_eq_true, decide_eq_true_eq]
  exact .inl (by omega)

end

/-! ## Rounds -/

/-- A worker keeps the books of a pacer: only the pacer's own jobs change them, and no job touches the
timer. -/
structure Serves (m : Worker σ α) (task? : α → Option Task) (books : σ → Pacer) : Prop where
  timer_retimed : ∀ s t, m.timer (m.retimed s t) = t
  books_retimed : ∀ s t, books (m.retimed s t) = books s
  timer_perform : ∀ s a, m.timer (m.perform s a) = m.timer s
  others : ∀ s a, task? a = none → books (m.perform s a) = books s
  own : ∀ s a task, task? a = some task →
    (task = .debounced → (m.timer s).has debounceJob = false) →
      books (m.perform s a) = (books s).done task

/-- A timer with an exact clock, at work, in which a pacer gives its debounce job the name that is
meant for it. -/
structure Orderly (task? : α → Option Task) (t : Timer α) : Prop where
  clock : t.clock = .exact
  running : t.running = true
  named : Named t.jobs
  debounce : ∀ j ∈ t.jobs, task? j.task = some .debounced → j.id = debounceJob

/-- A timer stays in order when jobs are gone. -/
theorem Orderly.later {task? : α → Option Task} {t : Timer α} (h : Orderly task? t)
    (now since d : Nat) :
    Orderly task? { t with now, since, jobs := t.jobs.filter fun j => d < j.due } :=
  ⟨h.clock, h.running, h.named.sublist (List.filter_sublist.map _),
    fun j hj => h.debounce j (List.mem_filter.mp hj).1⟩

namespace Serves

variable {m : Worker σ α} {task? : α → Option Task} {books : σ → Pacer} {s : σ}

theorem performAll (h : Serves m task? books) (hand : List (Job α)) : ∀ s : σ,
    (∀ j ∈ hand, task? j.task = some .debounced → (m.timer s).has debounceJob = false) →
      m.timer ((hand.map (·.task)).foldl m.perform s) = m.timer s ∧
        books ((hand.map (·.task)).foldl m.perform s) =
          allDone (books s) (hand.filterMap (own? task?)) := by
  induction hand with
  | nil => exact fun _ _ => ⟨rfl, rfl⟩
  | cons j r ih =>
      intro s hfree
      -- a job leaves the timer alone, so the name is as free for the rest as it was
      have htimer := h.timer_perform s j.task
      obtain ⟨hsame, hbooks⟩ := ih (m.perform s j.task) fun k hk hdeb => by
        rw [htimer]
        exact hfree k (List.mem_cons_of_mem j hk) hdeb
      refine ⟨hsame.trans htimer, hbooks.trans ?_⟩
      cases hj : task? j.task with
      | none =>
          have hown : own? task? j = none := by rw [own?, hj]; rfl
          rw [h.others s j.task hj, List.filterMap_cons_none hown]
      | some task =>
          have hown : own? task? j = some ⟨j.id, j.due, task⟩ := by rw [own?, hj]; rfl
          rw [h.own s j.task task hj fun hd => hfree j List.mem_cons_self (hd ▸ hj),
            List.filterMap_cons_some hown]
          rfl

/-- The jobs of one instant. -/
theorem runInstant (h : Serves m task? books) (ho : Orderly task? (m.timer s)) (d : Nat) :
    ∃ since, m.timer (m.runInstant d s) =
        { (m.timer s) with now := d, since, jobs := (m.timer s).jobs.filter fun j => d < j.due } ∧
      books (m.runInstant d s) =
        allDone (books s) (((m.timer s).takeDue d).1.filterMap (own? task?)) := by
  have hfree : ∀ j ∈ ((m.timer s).takeDue d).1, task? j.task = some .debounced →
      ((m.timer s).takeDue d).2.has debounceJob = false := by
    -- a debounce job that is taken out was the only one of its name
    intro j hj hdeb
    have hid : j.id = debounceJob :=
      ho.debounce j ((Timer.mem_takeDue _).mp hj).1 hdeb
    have hapart := (List.nodup_append.mp (by
      simpa only [Named, List.map_append] using (m.timer s).takeDue_named d ho.named)).2.2
    refine List.any_eq_false.mpr fun k hk heq => ?_
    exact hapart k.id (List.mem_map_of_mem hk) j.id (List.mem_map_of_mem hj)
      ((beq_iff_eq.mp heq).trans hid.symm)
  obtain ⟨htimer, hbooks⟩ := h.performAll ((m.timer s).takeDue d).1
    (m.retimed s { ((m.timer s).takeDue d).2 with now := d }) fun j hj hdeb => by
      rw [h.timer_retimed]
      exact hfree j hj hdeb
  rw [h.timer_retimed] at htimer
  rw [h.books_retimed] at hbooks
  refine ⟨(m.timer s).since, ?_, (h.books_retimed _ _).trans hbooks⟩
  refine (h.timer_retimed _ _).trans ?_
  exact congrArg (fun t : Timer α => { t with since := (m.timer s).since }) htimer

/-- The pacer's jobs of one instant, in their order, and those after it. -/
theorem agenda_split (t : Timer α) (hnamed : Named t.jobs) {d instant : Nat} (hd : d ≤ instant)
    {later : Timer α} (hlater : later.jobs = t.jobs.filter fun j => d < j.due) :
    inOrder ((agenda task? t).filter (·.due ≤ instant)) =
      (t.takeDue d).1.filterMap (own? task?) ++
        inOrder ((agenda task? later).filter (·.due ≤ instant)) := by
  have hsorted : ((t.takeDue d).1.filterMap (own? task?)).Pairwise
      fun a b => Timer.before a b = true := by
    refine (t.takeDue_sorted d).filterMap _ fun a b hab a' ha b' hb => ?_
    obtain ⟨haid, hadue, _⟩ := own?_eq_some ha
    obtain ⟨hbid, hbdue, _⟩ := own?_eq_some hb
    rw [Timer.before, haid, hadue, hbid, hbdue]
    exact hab
  have hhand : ((t.takeDue d).1.filterMap (own? task?)).Perm
      (((agenda task? t).filter (·.due ≤ instant)).filter (·.due ≤ d)) := by
    have hboth : ((agenda task? t).filter (·.due ≤ instant)).filter (·.due ≤ d) =
        (t.jobs.filter (·.due ≤ d)).filterMap (own? task?) := by
      rw [filterMap_filter (fun _ due => due ≤ d) t.jobs, List.filter_filter]
      refine List.filter_congr fun j _ => ?_
      simp only [Bool.and_eq_left_iff_imp, decide_eq_true_eq]
      omega
    rw [hboth]
    exact (List.mergeSort_perm _ _).filterMap _
  have hnames : Named ((agenda task? t).filter (·.due ≤ instant)) :=
    (named_filterMap hnamed).sublist (List.filter_sublist.map _)
  rw [inOrder_split hnames d hsorted hhand, agenda_later task? hlater]
  congr 2
  rw [List.filter_filter, List.filter_filter]
  exact List.filter_congr fun j _ => Bool.and_comm _ _

/-- **Rounds come to doing the pacer's jobs that are due in their order**, whatever others there
are. -/
theorem rounds (h : Serves m task? books) {instant : Nat} (n : Nat) : ∀ {s : σ},
    Orderly task? (m.timer s) → (m.timer s).now ≤ instant → (m.timer s).jobs.length < n →
      ∃ now since, m.timer (m.runRounds n instant s) =
          { (m.timer s) with now, since, jobs := (m.timer s).jobs.filter fun j => instant < j.due } ∧
        books (m.runRounds n instant s) =
          allDone (books s) (inOrder ((agenda task? (m.timer s)).filter (·.due ≤ instant))) := by
  induction n with
  | zero => exact fun _ _ h => absurd h (Nat.not_lt_zero _)
  | succ n ih =>
      intro s ho hnow hlength
      rw [Worker.runRounds]
      cases hnext : (m.timer s).nextRung? instant with
      | none =>
          -- nothing is due any more, and so none of the pacer's jobs is
          have hlater := Timer.nextRung?_eq_none ho.clock ho.running hnext
          have hall : ((m.timer s).jobs.filter fun j => decide (instant < j.due)) =
              (m.timer s).jobs :=
            List.filter_eq_self.mpr fun j hj => decide_eq_true (hlater j hj)
          have hnone : (agenda task? (m.timer s)).filter (·.due ≤ instant) = [] := by
            rw [agenda, ← filterMap_filter (fun _ due => due ≤ instant)]
            have hempty : ((m.timer s).jobs.filter fun j => decide (j.due ≤ instant)) = [] :=
              List.filter_eq_nil_iff.mpr fun j hj => by simpa using hlater j hj
            rw [hempty]
            rfl
          refine ⟨(m.timer s).now, (m.timer s).since, ?_, ?_⟩
          · rw [hall]
          · rw [hnone, inOrder, List.mergeSort_nil]
            rfl
      | some due =>
          obtain ⟨hle, ⟨j, hj, hjdue⟩, _⟩ := Timer.nextRung?_eq_some ho.clock hnext
          have hd : max (m.timer s).now due ≤ instant := Nat.max_le.mpr ⟨hnow, hle⟩
          obtain ⟨since, htimer, hbooks⟩ := h.runInstant ho (max (m.timer s).now due)
          dsimp only
          have hdue : due ≤ max (m.timer s).now due := Nat.le_max_right _ _
          generalize max (m.timer s).now due = d at hd hdue htimer hbooks ⊢
          have hjobs : (m.timer (m.runInstant d s)).jobs =
              (m.timer s).jobs.filter fun j => decide (d < j.due) := by rw [htimer]
          have ho' : Orderly task? (m.timer (m.runInstant d s)) := by
            rw [htimer]
            exact ho.later d since d
          have hfewer : (m.timer (m.runInstant d s)).jobs.length < n := by
            -- at least the job that is due is gone
            have hless : (m.timer (m.runInstant d s)).jobs.length < (m.timer s).jobs.length := by
              rw [hjobs]
              refine List.length_filter_lt_length_iff_exists.mpr ⟨j, hj, ?_⟩
              simp only [decide_eq_true_eq]
              omega
            omega
          have hnow' : (m.timer (m.runInstant d s)).now ≤ instant := by
            rw [htimer]
            exact hd
          obtain ⟨now', since', htimer', hbooks'⟩ := ih ho' hnow' hfewer
          refine ⟨now', since', htimer'.trans ?_, hbooks'.trans ?_⟩
          · -- of the jobs after the round's instant those after the end come later
            have hboth : ((m.timer (m.runInstant d s)).jobs.filter fun j =>
                decide (instant < j.due)) =
                (m.timer s).jobs.filter fun j => decide (instant < j.due) := by
              rw [hjobs, List.filter_filter]
              refine List.filter_congr fun j _ => ?_
              simp only [Bool.and_eq_left_iff_imp, decide_eq_true_eq]
              omega
            rw [hboth, htimer]
          · rw [hbooks, agenda_split (m.timer s) ho.named hd hjobs, allDone, allDone, allDone,
              List.foldl_append]

/-- Letting time pass is doing what is due by its end. -/
theorem advance (h : Serves m task? books) (ho : Orderly task? (m.timer s)) (ms : Nat) :
    ∃ since, m.timer (m.advance ms s) =
        { (m.timer s) with
          now := (m.timer s).now + ms, since
          jobs := (m.timer s).jobs.filter fun j => (m.timer s).now + ms < j.due } ∧
      books (m.advance ms s) =
        allDone (books s)
          (inOrder ((agenda task? (m.timer s)).filter (·.due ≤ (m.timer s).now + ms))) := by
  have hfuel : (m.timer s).jobs.length < 2 * ms + (m.timer s).jobs.length + 2 := by omega
  have hnow : (m.timer s).now ≤ (m.timer s).now + ms := Nat.le_add_right _ _
  obtain ⟨now, since, htimer, hbooks⟩ := h.rounds _ ho hnow hfuel
  refine ⟨since, ?_, (h.books_retimed _ _).trans hbooks⟩
  refine (h.timer_retimed _ _).trans ?_
  exact congrArg (fun t : Timer α => { t with now := (m.timer s).now + ms }) htimer

end Serves

end StickerPages.Timing
