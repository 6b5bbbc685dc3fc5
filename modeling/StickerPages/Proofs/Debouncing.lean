import StickerPages.Proofs.Diaries
import StickerPages.Proofs.Pacing
import StickerPages.Proofs.Timers

/-!
# Sweeps when changes calm down

A session whose host sweeps is started, takes notices, and lets time pass. A diary of what happens is
kept in the host's memory: `noted` writes down each notice, and `diarist` each sweep, before the
host's own sweeping goes on and whether or not it succeeds. The host may give notices while it
sweeps; else it leaves the pacer alone (`Unmeddling`).

`Paced` ties the state to the diary: the jobs are those that the diary leaves to do. A notice keeps
it, and so does a sweep. While the jobs of one instant are run, those that are taken out and not yet
run are the *hand*; the debounce job is always the first of them, so that a notice that the host
gives during a sweep never meets a debounce job that is already on its way.
-/

namespace StickerPages.Live

open Timing

/-! ## The diary -/

/-- A notice that is written down. -/
def Session.noted (s : Session Diary) : Session Diary :=
  { s with host := (s.timer.now, Happening.notice) :: s.host }.notify

/-- Several notices at one instant. -/
def Session.notedTimes : Nat → Session Diary → Session Diary
  | 0, s => s
  | n + 1, s => notedTimes n s.noted

/-- The name under which a pacer counts the sweeps of a task. -/
def countedAs : Task → String
  | .debounced => "debounce"
  | .delayed => "delayed"

/-- How many sweeps for a task the pacer has counted. -/
def timesCounted (p : Pacer) (task : Task) : Nat := (p.counts.lookup (countedAs task)).getD 0

/-- The task that the sweep under way is for: the one that is counted and not yet written down. -/
def underWay (s : Session Diary) : Task :=
  if sweeps .debounced s.host < timesCounted s.pacer .debounced then .debounced else .delayed

/-- A host that writes down each sweep and then sweeps in its own way. -/
def diarist (sweep : Session Diary → Session Diary × Bool) : Hooks Diary :=
  { Hooks.idle with
    sweep := fun s => sweep { s with host := (s.timer.now, .swept (underWay s)) :: s.host } }

/-- What a pacer works with: all but the page, the watcher, the reports, and the instant at which the
alarm was set, which an exact clock does not look at. -/
def gears (s : Session Diary) :=
  (s.settings, s.sweeper, s.timer.clock, s.timer.running, s.timer.now, s.timer.jobs, s.pacer, s.host)

/-- A sweeping that does nothing to the pacer but give notices. -/
def Unmeddling (sweep : Session Diary → Session Diary × Bool) : Prop :=
  ∀ s, ∃ n, gears (sweep s).1 = gears (s.notedTimes n)

/-! ## The state and the diary -/

/-- The jobs that a diary leaves to do: the sweep for the notice that waits, and the sweeps of the
delays that are not written down. -/
def LeftToDo (debounce start : Nat) (delays : List Nat) (d : Diary) (j : Job Duty) : Prop :=
  (∃ t, unanswered d = some t ∧ j = ⟨debounceJob, t + debounce, .sweep .debounced⟩) ∨
  (∃ x ∈ delays, (start + x, .swept .delayed) ∉ d ∧
    j = ⟨delayedJob x, start + x, .sweep .delayed⟩)

/-- A session in step with its diary, and the jobs in hand. -/
structure Paced (debounce start : Nat) (delays : List Nat) (s : Session Diary)
    (hand : List (Job Duty)) : Prop where
  clock : s.timer.clock = .exact
  running : s.timer.running = true
  sweeper : s.sweeper = .host
  wait : s.debounce = debounce
  pending : s.pacer.pending = (unanswered s.host).isSome
  counted : ∀ task, timesCounted s.pacer task = sweeps task s.host
  faithful : Faithful debounce s.timer.now s.host
  planned : ∀ i, (i, .swept .delayed) ∈ s.host → ∃ x ∈ delays, i = start + x
  jobs : ∀ j, j ∈ s.timer.jobs ++ hand ↔ LeftToDo debounce start delays s.host j
  named : Named (s.timer.jobs ++ hand)
  due : ∀ j ∈ hand, j.due = s.timer.now
  first : ∀ j ∈ hand.tail, j.id ≠ debounceJob

/-- In step at an instant, when no job in the timer is due any more. -/
structure PacedAt (debounce start : Nat) (delays : List Nat) (now : Nat) (s : Session Diary)
    (hand : List (Job Duty)) : Prop extends Paced debounce start delays s hand where
  time : s.timer.now = now
  ahead : ∀ j ∈ s.timer.jobs, now < j.due

variable {debounce start now : Nat} {delays : List Nat} {s s' : Session Diary}
  {hand : List (Job Duty)} {d : Diary} {j : Job Duty}

theorem Paced.carry (h : Paced debounce start delays s hand) (same : gears s' = gears s) :
    Paced debounce start delays s' hand := by
  simp only [gears, Prod.mk.injEq] at same
  obtain ⟨h1, h2, h3, h4, h5, h6, h7, h8⟩ := same
  have hwait : s'.debounce = s.debounce := by rw [Session.debounce, h1, Session.debounce]
  exact ⟨h3.trans h.clock, h4.trans h.running, h2.trans h.sweeper, hwait.trans h.wait,
    h7 ▸ h8 ▸ h.pending, h7 ▸ h8 ▸ h.counted, h5 ▸ h8 ▸ h.faithful, h8 ▸ h.planned,
    h6 ▸ h8 ▸ h.jobs, h6 ▸ h.named, h5 ▸ h.due, h.first⟩

theorem PacedAt.carry (h : PacedAt debounce start delays now s hand) (same : gears s' = gears s) :
    PacedAt debounce start delays now s' hand := by
  refine ⟨h.toPaced.carry same, ?_, ?_⟩
  all_goals
    simp only [gears, Prod.mk.injEq] at same
    obtain ⟨_, _, _, _, h5, h6, _⟩ := same
  · exact h5.trans h.time
  · exact h6 ▸ h.ahead

/-! With nothing in hand, the timer has all the jobs that are left to do. -/

theorem Paced.mem_jobs (h : Paced debounce start delays s []) :
    j ∈ s.timer.jobs ↔ LeftToDo debounce start delays s.host j := by
  rw [← h.jobs, List.append_nil]

theorem Paced.named_jobs (h : Paced debounce start delays s []) : Named s.timer.jobs := by
  rw [← List.append_nil s.timer.jobs]
  exact h.named

/-! ## What is left to do -/

theorem leftToDo_notice : LeftToDo debounce start delays ((now, .notice) :: d) j ↔
    (LeftToDo debounce start delays d j ∧ j.id ≠ debounceJob) ∨
      j = ⟨debounceJob, now + debounce, .sweep .debounced⟩ := by
  constructor
  · rintro (⟨t, ht, rfl⟩ | ⟨x, hx, hnew, rfl⟩)
    · cases ht
      exact .inr rfl
    · exact .inl ⟨.inr ⟨x, hx, by simpa using hnew, rfl⟩, delayedJob_ne x⟩
  · rintro (⟨⟨t, _, rfl⟩ | ⟨x, hx, hnew, rfl⟩, hid⟩ | rfl)
    · exact absurd rfl hid
    · exact .inr ⟨x, hx, by simpa using hnew, rfl⟩
    · exact .inl ⟨now, rfl, rfl⟩

theorem leftToDo_debounced : LeftToDo debounce start delays ((now, .swept .debounced) :: d) j ↔
    LeftToDo debounce start delays d j ∧ j.id ≠ debounceJob := by
  constructor
  · rintro (⟨t, ht, rfl⟩ | ⟨x, hx, hnew, rfl⟩)
    · cases ht
    · exact ⟨.inr ⟨x, hx, by simpa using hnew, rfl⟩, delayedJob_ne x⟩
  · rintro ⟨⟨t, _, rfl⟩ | ⟨x, hx, hnew, rfl⟩, hid⟩
    · exact absurd rfl hid
    · exact .inr ⟨x, hx, by simpa using hnew, rfl⟩

theorem leftToDo_delayed (x : Nat) :
    LeftToDo debounce start delays ((start + x, .swept .delayed) :: d) j ↔
      LeftToDo debounce start delays d j ∧ j.id ≠ delayedJob x := by
  constructor
  · rintro (⟨t, ht, rfl⟩ | ⟨y, hy, hnew, rfl⟩)
    · exact ⟨.inl ⟨t, ht, rfl⟩, (delayedJob_ne x).symm⟩
    · rw [List.mem_cons, not_or] at hnew
      obtain ⟨hne, hnew⟩ := hnew
      refine ⟨.inr ⟨y, hy, hnew, rfl⟩, fun hid => hne ?_⟩
      rw [delayedJob_inj hid]
  · rintro ⟨⟨t, ht, rfl⟩ | ⟨y, hy, hnew, rfl⟩, hid⟩
    · exact .inl ⟨t, ht, rfl⟩
    · have hne : (start + y, Happening.swept .delayed) ≠ (start + x, .swept .delayed) := by
        intro heq
        have hsame : start + y = start + x := congrArg Prod.fst heq
        exact hid (congrArg delayedJob (Nat.add_left_cancel hsame))
      exact .inr ⟨y, hy, fun hmem => (List.mem_cons.mp hmem).elim hne hnew, rfl⟩

/-! ## Counts -/

theorem timesCounted_count (p : Pacer) (task other : Task) :
    timesCounted (p.count (countedAs task)) other =
      timesCounted p other + if other = task then 1 else 0 := by
  unfold timesCounted Pacer.count
  by_cases h : other = task
  · rw [h, Pairs.lookup_put_self, if_pos rfl]
    rfl
  · have hname : countedAs other ≠ countedAs task := by
      cases other <;> cases task <;> first | exact absurd rfl h | decide
    rw [Pairs.lookup_put_other _ _ hname, if_neg h, Nat.add_zero]

theorem sweeps_notice (task : Task) : sweeps task ((now, .notice) :: d) = sweeps task d := by
  simp [sweeps]

theorem sweeps_swept (task other : Task) :
    sweeps other ((now, .swept task) :: d) = sweeps other d + if other = task then 1 else 0 := by
  cases task <;> cases other <;> simp [sweeps]

/-! ## A notice -/

/-- **A notice keeps pace**, also one that is given while the last jobs of an instant are in hand. -/
theorem PacedAt.notice (h : PacedAt debounce start delays now s hand) (hpos : 0 < debounce)
    (hhand : ∀ j ∈ hand, j.id ≠ debounceJob) :
    PacedAt debounce start delays now s.noted hand := by
  obtain rfl := h.time
  -- the job for the notice that waits is still in the timer, and so it is not due yet
  have hearly : ∀ t, unanswered s.host = some t → s.timer.now < t + debounce := by
    intro t ht
    rcases List.mem_append.mp ((h.jobs _).mpr (.inl ⟨t, ht, rfl⟩)) with hj | hj
    · exact h.ahead _ hj
    · exact absurd rfl (hhand _ hj)
  have hnoted : s.noted = { s with
      host := (s.timer.now, .notice) :: s.host
      pacer := { s.pacer with pending := true }.noting debounceJob
      timer := s.timer.put debounceJob debounce (.sweep .debounced) } := by
    rw [← h.wait]
    exact notify_eq (s := { s with host := _ :: s.host }) h.running
  rw [hnoted]
  refine ⟨⟨h.clock, h.running, h.sweeper, h.wait, pending_noting _ _, fun task => ?_,
    h.faithful.notice hpos hearly, fun i hi => h.planned i (by simpa using hi), fun j => ?_,
    Timer.put_named _ hhand h.named, h.due, h.first⟩, rfl, ?_⟩
  · rw [sweeps_notice, ← h.counted, timesCounted, counts_noting]
    rfl
  · rw [leftToDo_notice, ← h.jobs, List.mem_append, Timer.mem_put, List.mem_append]
    have := hhand j
    tauto
  · intro j hj
    rcases (Timer.mem_put _).mp hj with ⟨hj, _⟩ | rfl
    · exact h.ahead j hj
    · exact Nat.lt_add_of_pos_right hpos

theorem PacedAt.notices (hpos : 0 < debounce) (hhand : ∀ j ∈ hand, j.id ≠ debounceJob) (n : Nat) :
    ∀ {s : Session Diary}, PacedAt debounce start delays now s hand →
      PacedAt debounce start delays now (s.notedTimes n) hand := by
  induction n with
  | zero => exact fun h => h
  | succ n ih => exact fun h => ih (h.notice hpos hhand)

/-! ## A sweep -/

/-- A sweep that is counted and written down. -/
def Session.begun (task : Task) (s : Session Diary) : Session Diary :=
  { s with
    pacer := s.pacer.count (countedAs task)
    host := (s.timer.now, .swept task) :: s.host }

/-- The host is called with its sweep written down; that it fails changes only the reports. -/
theorem gears_sweepNow (sweep : Session Diary → Session Diary × Bool)
    (hsweeper : s.sweeper = .host) (hcounted : ∀ task, timesCounted s.pacer task = sweeps task s.host)
    (task : Task) :
    gears (s.sweepNow (diarist sweep) (countedAs task)).1 = gears (sweep (s.begun task)).1 := by
  -- the count is ahead of the diary, for this task only
  have hunder : underWay { s with pacer := s.pacer.count (countedAs task) } = task := by
    unfold underWay
    rw [timesCounted_count, hcounted]
    cases task <;> simp
  -- so the diary says what the sweep is for
  have hcall : (diarist sweep).sweep { s with pacer := s.pacer.count (countedAs task) } =
      sweep (s.begun task) := by
    show sweep _ = sweep _
    rw [hunder]
    rfl
  unfold Session.sweepNow
  dsimp only
  split
  · rename_i hpage
    rw [hsweeper] at hpage
    cases hpage
  · rw [hcall]
    rcases sweep (s.begun task) with ⟨t, _ | _⟩ <;> rfl

/-- The jobs that are left when the first in hand has been done. -/
theorem Paced.mem_rest (h : Paced debounce start delays s (j :: hand)) (k : Job Duty) :
    k ∈ s.timer.jobs ++ hand ↔ LeftToDo debounce start delays s.host k ∧ k.id ≠ j.id := by
  have hnames := h.named
  unfold Named at hnames
  rw [List.perm_middle.map _ |>.nodup_iff, List.map_cons, List.nodup_cons] at hnames
  rw [← h.jobs, List.perm_middle.mem_iff, List.mem_cons]
  constructor
  · intro hk
    refine ⟨.inr hk, fun hid => hnames.1 ?_⟩
    rw [← hid]
    exact List.mem_map_of_mem hk
  · rintro ⟨rfl | hk, hid⟩
    · exact absurd rfl hid
    · exact hk

theorem Paced.named_rest (h : Paced debounce start delays s (j :: hand)) :
    Named (s.timer.jobs ++ hand) :=
  h.named.sublist (((List.sublist_cons_self j hand).append_left _).map _)

/-- The first in hand is the sweep for the notice that waits, or the sweep of a delay. -/
theorem Paced.head_cases (h : Paced debounce start delays s (j :: hand)) :
    (∃ t, unanswered s.host = some t ∧ s.timer.now = t + debounce ∧
      j = ⟨debounceJob, t + debounce, .sweep .debounced⟩) ∨
    (∃ x ∈ delays, s.timer.now = start + x ∧ (start + x, .swept .delayed) ∉ s.host ∧
      j = ⟨delayedJob x, start + x, .sweep .delayed⟩) := by
  have hdue := h.due j List.mem_cons_self
  rcases (h.jobs j).mp (List.mem_append_right _ List.mem_cons_self) with
    ⟨t, ht, rfl⟩ | ⟨x, hx, hnew, rfl⟩
  · exact .inl ⟨t, ht, hdue.symm, rfl⟩
  · exact .inr ⟨x, hx, hdue.symm, hnew, rfl⟩

theorem Paced.begun_debounced {t : Nat}
    (h : Paced debounce start delays s (⟨debounceJob, t + debounce, .sweep .debounced⟩ :: hand))
    (hwaits : unanswered s.host = some t) (hnow : s.timer.now = t + debounce) :
    Paced debounce start delays
      ({ s with pacer := Pacer.settle (s.pacer, s.timer) }.begun .debounced) hand := by
  -- no other debounce job has been put since this one was taken out
  have hgone : s.timer.has debounceJob = false := by
    rw [Timer.has, List.any_eq_false]
    intro k hk hid
    exact ((h.mem_rest k).mp (List.mem_append_left _ hk)).2 (beq_iff_eq.mp hid)
  have hsettle : Pacer.settle (s.pacer, s.timer) = { s.pacer with pending := false } := by
    rw [Pacer.settle, hgone]
    rfl
  rw [hsettle]
  refine ⟨h.clock, h.running, h.sweeper, h.wait, rfl, fun task => ?_,
    h.faithful.debounced hwaits hnow, fun i hi => ?_, fun k => ?_,
    h.named_rest, fun k hk => h.due k (List.mem_cons_of_mem _ hk),
    fun k hk => h.first k (List.mem_of_mem_tail hk)⟩
  · show timesCounted (Pacer.count _ (countedAs _)) task = sweeps task (_ :: _)
    rw [timesCounted_count, sweeps_swept, ← h.counted]
    rfl
  · rcases List.mem_cons.mp hi with hi | hi
    · cases hi
    · exact h.planned i hi
  · exact (h.mem_rest k).trans leftToDo_debounced.symm

theorem Paced.begun_delayed {x : Nat}
    (h : Paced debounce start delays s (⟨delayedJob x, start + x, .sweep .delayed⟩ :: hand))
    (hx : x ∈ delays) (hnow : s.timer.now = start + x)
    (hnew : (start + x, .swept .delayed) ∉ s.host) :
    Paced debounce start delays (s.begun .delayed) hand := by
  refine ⟨h.clock, h.running, h.sweeper, h.wait, h.pending, fun task => ?_,
    h.faithful.delayed (hnow ▸ hnew), fun i hi => ?_, fun k => ?_, h.named_rest,
    fun k hk => h.due k (List.mem_cons_of_mem _ hk),
    fun k hk => h.first k (List.mem_of_mem_tail hk)⟩
  · show timesCounted (Pacer.count _ (countedAs _)) task = sweeps task (_ :: _)
    rw [timesCounted_count, sweeps_swept, ← h.counted]
  · rcases List.mem_cons.mp hi with hi | hi
    · cases hi
      exact ⟨x, hx, hnow⟩
    · exact h.planned i hi
  · show _ ↔ LeftToDo debounce start delays ((s.timer.now, _) :: s.host) k
    rw [hnow]
    exact (h.mem_rest k).trans (leftToDo_delayed x).symm

/-! ## Doing what is due -/

section

variable {sweep : Session Diary → Session Diary × Bool} (hpos : 0 < debounce)
  (hsweep : Unmeddling sweep)
include hpos hsweep

theorem PacedAt.called (h : PacedAt debounce start delays now s hand)
    (hhand : ∀ j ∈ hand, j.id ≠ debounceJob) :
    PacedAt debounce start delays now (sweep s).1 hand := by
  obtain ⟨n, hn⟩ := hsweep s
  exact (h.notices hpos hhand n).carry hn

/-- **The first job in hand is done.** The debounce job is not behind it, and so the host may give
notices meanwhile. -/
theorem PacedAt.perform (h : PacedAt debounce start delays now s (j :: hand)) :
    PacedAt debounce start delays now (s.perform (diarist sweep) j.task) hand := by
  have hhand : ∀ k ∈ hand, k.id ≠ debounceJob := h.first
  rcases h.head_cases with ⟨t, hwaits, hnow, rfl⟩ | ⟨x, hx, hnow, hnew, rfl⟩
  · have hsettle : (Pacer.settle (s.pacer, s.timer)).counts = s.pacer.counts := by
      unfold Pacer.settle
      split <;> rfl
    have hbegun : PacedAt debounce start delays now
        ({ s with pacer := Pacer.settle (s.pacer, s.timer) }.begun .debounced) hand :=
      ⟨h.begun_debounced hwaits hnow, h.time, h.ahead⟩
    have hcounted (task : Task) :
        timesCounted (Pacer.settle (s.pacer, s.timer)) task = sweeps task s.host := by
      rw [timesCounted, hsettle]
      exact h.counted task
    exact (hbegun.called hpos hsweep hhand).carry
      (gears_sweepNow (s := { s with pacer := Pacer.settle (s.pacer, s.timer) }) sweep h.sweeper
        hcounted .debounced)
  · have hbegun : PacedAt debounce start delays now (s.begun .delayed) hand :=
      ⟨h.begun_delayed hx hnow hnew, h.time, h.ahead⟩
    exact (hbegun.called hpos hsweep hhand).carry
      (gears_sweepNow sweep h.sweeper h.counted .delayed)

theorem PacedAt.performAll (hand : List (Job Duty)) :
    ∀ {s : Session Diary}, PacedAt debounce start delays now s hand →
      PacedAt debounce start delays now
        ((hand.map (·.task)).foldl (Session.perform (diarist sweep)) s) [] := by
  induction hand with
  | nil => exact fun h => h
  | cons j r ih => exact fun h => ih (h.perform hpos hsweep)

end

end StickerPages.Live
