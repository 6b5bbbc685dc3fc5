import StickerPages.Proofs.Debouncing

/-!
# Sweeps on schedule

Whole runs of a session whose host sweeps: a start, and then notices and time, in any order. A run
goes from instant to instant. At each one the jobs that are due are taken in hand and done; what is
left over is due later, and so the rounds come to an end. The state keeps in step with the diary
(`Paced`), and when nothing is due any more, what the diary says is what was promised
(`keepPace_onSchedule`).
-/

namespace StickerPages.Live

open Timing

variable {debounce start now : Nat} {delays : List Nat} {s : Session Diary} {d : Diary}

/-! ## Runs -/

/-- What befalls a started session. -/
inductive Turn where
  | notice
  | pass (ms : Nat)
deriving Repr

/-- One turn, and whatever is due then. -/
def turn (hooks : Hooks Diary) (s : Session Diary) : Turn → Session Diary
  | .notice => s.noted.runDue hooks
  | .pass ms => (s.advance hooks ms).runDue hooks

/-- The start and the turns after it. -/
def keepPace (hooks : Hooks Diary) (s : Session Diary) (turns : List Turn) : Session Diary :=
  turns.foldl (turn hooks) (s.startPacing.1.runDue hooks)

def Turn.span : Turn → Nat
  | .notice => 0
  | .pass ms => ms

/-- How long some turns take. -/
def spanOf : List Turn → Nat
  | [] => 0
  | a :: turns => a.span + spanOf turns

/-- A session that has not been started and is swept by its host. Its timer is its own, and its clock
is exact: a job runs when the clock comes to the instant at which it is due. -/
structure Unstarted (debounce : Nat) (delays : List Nat) (s : Session Diary) : Prop where
  debounce : s.settings.debounceMs = .int debounce
  delays : s.settings.delayedSweepsMs = .list (delays.map fun d : Nat => .int d)
  sweeper : s.sweeper = .host
  owned : s.owned = true
  clock : s.timer.clock = .exact
  jobs : s.timer.jobs = []
  pacer : s.pacer = {}
  blank : s.host = []

/-! ## Instants -/

/-- The debounce job comes out first. -/
theorem LeftToDo.first {hand : List (Job Duty)}
    (hleft : ∀ j ∈ hand, LeftToDo debounce start delays d j) (hdue : ∀ j ∈ hand, j.due = now)
    (hsorted : hand.Pairwise fun a b => Timer.before a b = true) (hnamed : Named hand) :
    ∀ j ∈ hand.tail, j.id ≠ debounceJob := by
  cases hand with
  | nil => simp
  | cons j r =>
      intro k hk hid
      have hbefore := List.rel_of_pairwise_cons hsorted hk
      have hsame : j.due = k.due :=
        (hdue j List.mem_cons_self).trans (hdue k (List.mem_cons_of_mem _ hk)).symm
      have hnot : ¬ k.id < j.id := by
        simpa [Timer.before, hsame] using hbefore
      rcases hleft j List.mem_cons_self with ⟨t, _, rfl⟩ | ⟨x, _, _, rfl⟩
      · unfold Named at hnamed
        rw [List.map_cons, List.nodup_cons] at hnamed
        have hmem : debounceJob ∈ r.map (·.id) := by
          rw [← hid]
          exact List.mem_map_of_mem hk
        exact hnamed.1 hmem
      · exact hnot (hid ▸ debounceJob_lt x)

/-- The clock comes to the first instant at which a job is due, and its jobs are taken in hand. -/
theorem Paced.takeDue {due : Nat} (h : Paced debounce start delays s []) (hnow : s.timer.now ≤ due)
    (hleast : ∀ j ∈ s.timer.jobs, due ≤ j.due) :
    let (taken, timer) := { s.timer with now := due }.takeDue due
    PacedAt debounce start delays due { s with timer } taken := by
  let t : Timer Duty := { s.timer with now := due }
  have hjobs (j : Job Duty) : j ∈ (t.takeDue due).2.jobs ++ (t.takeDue due).1 ↔
      LeftToDo debounce start delays s.host j :=
    (t.takeDue_perm due).mem_iff.trans h.mem_jobs
  have hdue : ∀ j ∈ (t.takeDue due).1, j.due = due := by
    intro j hj
    obtain ⟨hmem, hle⟩ := t.mem_takeDue.mp hj
    exact Nat.le_antisymm hle (hleast j hmem)
  have hnamed : Named ((t.takeDue due).2.jobs ++ (t.takeDue due).1) :=
    t.takeDue_named due h.named_jobs
  have hfirst : ∀ j ∈ (t.takeDue due).1.tail, j.id ≠ debounceJob :=
    LeftToDo.first (fun j hj => (hjobs j).mp (List.mem_append_right _ hj)) hdue
      (t.takeDue_sorted due) (hnamed.sublist ((List.sublist_append_right _ _).map _))
  exact ⟨⟨h.clock, h.running, h.sweeper, h.wait, h.pending, h.counted, h.faithful.later hnow,
    h.planned, hjobs, hnamed, hdue, hfirst⟩, rfl, fun j hj => (t.mem_takeDue_left.mp hj).2⟩

section

variable {sweep : Session Diary → Session Diary × Bool} (hpos : 0 < debounce)
  (hsweep : Unmeddling sweep)
include hpos hsweep

theorem Paced.runInstant {due : Nat} (h : Paced debounce start delays s [])
    (hnow : s.timer.now ≤ due) (hleast : ∀ j ∈ s.timer.jobs, due ≤ j.due) :
    PacedAt debounce start delays due (s.runInstant (diarist sweep) due) [] :=
  (PacedAt.performAll hpos hsweep _ (h.takeDue hnow hleast)).carry rfl

/-- **Rounds of jobs, up to an instant.** Every round but the first takes the clock on, and so as many
rounds are enough as there are instants, and one more. -/
theorem Paced.runRounds (instant rounds : Nat) :
    ∀ {s : Session Diary}, Paced debounce start delays s [] → s.timer.now ≤ instant →
      (∀ j ∈ s.timer.jobs, s.timer.now ≤ j.due ∧ instant < j.due + rounds) →
      let s' := Session.runRounds (diarist sweep) rounds instant s
      Paced debounce start delays s' [] ∧ s.timer.now ≤ s'.timer.now ∧ s'.timer.now ≤ instant ∧
        ∀ j ∈ s'.timer.jobs, instant < j.due := by
  induction rounds with
  | zero => exact fun h hnow hjobs => ⟨h, Nat.le_refl _, hnow, fun j hj => (hjobs j hj).2⟩
  | succ rounds ih =>
      intro s h hnow hjobs
      rw [Session.runRounds]
      cases hnext : s.timer.nextRung? instant with
      | none =>
          exact ⟨h, Nat.le_refl _, hnow, Timer.nextRung?_eq_none h.clock h.running hnext⟩
      | some due =>
          obtain ⟨hle, ⟨k, hk, rfl⟩, hleast⟩ := Timer.nextRung?_eq_some h.clock hnext
          obtain ⟨hlate, henough⟩ := hjobs k hk
          have hrun := h.runInstant hpos hsweep hlate hleast
          dsimp only
          rw [Nat.max_eq_right hlate]
          -- the jobs that are left are due after this instant, so one round less is enough
          obtain ⟨hpaced, hlater, hnow', hdone⟩ :=
            ih hrun.toPaced (by rw [hrun.time]; exact hle) fun j hj => by
              have hahead := hrun.ahead j hj
              have htime := hrun.time
              omega
          rw [hrun.time] at hlater
          exact ⟨hpaced, Nat.le_trans hlate hlater, hnow', hdone⟩

theorem Paced.runDue (h : Paced debounce start delays s [])
    (hjobs : ∀ j ∈ s.timer.jobs, s.timer.now ≤ j.due) :
    PacedAt debounce start delays s.timer.now (s.runDue (diarist sweep)) [] := by
  obtain ⟨hpaced, hlater, hnow, hdone⟩ := h.runRounds hpos hsweep s.timer.now
    (s.timer.jobs.length + 2) (Nat.le_refl _) fun j hj => by
      have := hjobs j hj
      omega
  exact ⟨hpaced, Nat.le_antisymm hnow hlater, hdone⟩

theorem PacedAt.runDue (h : PacedAt debounce start delays now s []) :
    PacedAt debounce start delays now (s.runDue (diarist sweep)) [] := by
  obtain rfl := h.time
  exact h.toPaced.runDue hpos hsweep fun j hj => Nat.le_of_lt (h.ahead j hj)

theorem PacedAt.advance (h : PacedAt debounce start delays now s []) (ms : Nat) :
    PacedAt debounce start delays (now + ms) (s.advance (diarist sweep) ms) [] := by
  obtain rfl := h.time
  obtain ⟨hpaced, hlater, hnow, hdone⟩ := h.toPaced.runRounds hpos hsweep (s.timer.now + ms)
    (2 * ms + s.timer.jobs.length + 2) (Nat.le_add_right _ _) fun j hj => by
      have := h.ahead j hj
      omega
  have hrest : Paced debounce start delays (s.advance (diarist sweep) ms) [] :=
    { hpaced with
      faithful := hpaced.faithful.later hnow
      due := fun _ hj => absurd hj List.not_mem_nil }
  exact ⟨hrest, rfl, hdone⟩

/-! ## Turns -/

theorem PacedAt.turn (h : PacedAt debounce start delays now s []) (a : Turn) :
    PacedAt debounce start delays (now + a.span) (turn (diarist sweep) s a) [] := by
  cases a with
  | notice => exact (h.notice hpos (by simp)).runDue hpos hsweep
  | pass ms => exact (h.advance hpos hsweep ms).runDue hpos hsweep

theorem PacedAt.turns (turns : List Turn) :
    ∀ {now : Nat} {s : Session Diary}, PacedAt debounce start delays now s [] →
      PacedAt debounce start delays (now + spanOf turns)
        (turns.foldl (Live.turn (diarist sweep)) s) [] := by
  induction turns with
  | nil => exact fun h => h
  | cons a r ih =>
      intro now s h
      rw [spanOf, ← Nat.add_assoc]
      exact ih (h.turn hpos hsweep a)

end

/-! ## Starting -/

/-- Adding the jobs of some delays to those of others: a delay that comes twice has one job. -/
theorem foldl_delay (xs : List Nat) : ∀ (done : List Nat) (p : Pacer × Timer Duty),
    Named p.2.jobs →
    (∀ j, j ∈ p.2.jobs ↔ ∃ x ∈ done, j = ⟨delayedJob x, p.2.now + x, .sweep .delayed⟩) →
    let q := xs.foldl (Pacer.delay Duty.sweep) p
    (q.1.pending, q.1.counts, q.2.clock, q.2.running, q.2.now) =
        (p.1.pending, p.1.counts, p.2.clock, p.2.running, p.2.now) ∧
      Named q.2.jobs ∧
      ∀ j, j ∈ q.2.jobs ↔
        ∃ x, (x ∈ done ∨ x ∈ xs) ∧ j = ⟨delayedJob x, p.2.now + x, .sweep .delayed⟩ := by
  induction xs with
  | nil => exact fun done p hnamed hjobs => ⟨rfl, hnamed, by simpa using hjobs⟩
  | cons d r ih =>
      intro done p hnamed hjobs
      -- a delay that comes again takes the place of its job, which is the same
      have hput : Named (p.2.put (delayedJob d) d (Duty.sweep .delayed)).jobs := by
        rw [← List.append_nil (Timer.put ..).jobs]
        exact Timer.put_named _ (by simp) (by rwa [List.append_nil])
      obtain ⟨hsame, hnamed', hjobs'⟩ := ih (d :: done) (Pacer.delay Duty.sweep p d) hput
        fun j => by
          show j ∈ (p.2.put (delayedJob d) d (Duty.sweep .delayed)).jobs ↔ ∃ x ∈ d :: done,
            j = ⟨delayedJob x, p.2.now + x, .sweep .delayed⟩
          rw [Timer.mem_put, hjobs]
          constructor
          · rintro (⟨⟨x, hx, rfl⟩, _⟩ | rfl)
            · exact ⟨x, List.mem_cons_of_mem _ hx, rfl⟩
            · exact ⟨d, List.mem_cons_self, rfl⟩
          · rintro ⟨x, hx, rfl⟩
            by_cases heq : x = d
            · exact .inr (heq ▸ rfl)
            · exact .inl ⟨⟨x, List.mem_of_ne_of_mem heq hx, rfl⟩, fun hid => heq (delayedJob_inj hid)⟩
      refine ⟨hsame.trans ?_, hnamed', fun j => (hjobs' j).trans ?_⟩
      · simp [Pacer.delay, pending_noting, counts_noting, Timer.put]
      · show (∃ x, (x ∈ d :: done ∨ x ∈ r) ∧ _ = (⟨_, p.2.now + x, _⟩ : Job Duty)) ↔ _
        simp only [List.mem_cons]
        grind

/-- **A started session is in step with its empty diary.** -/
theorem Unstarted.paced (h : Unstarted debounce delays s) :
    s.startPacing.2 = true ∧ Paced debounce s.timer.now delays s.startPacing.1 [] ∧
      s.startPacing.1.timer.now = s.timer.now ∧
      ∀ j ∈ s.startPacing.1.timer.jobs, s.startPacing.1.timer.now ≤ j.due := by
  have hdelays : s.delays = (delays, true) := delays_eq (by rw [h.delays, Value.items?])
  obtain ⟨hsame, hnamed, hjobs⟩ := foldl_delay delays [] (s.pacer, s.timer.start)
    (by simp [Named, Timer.start, h.jobs]) (by simp [Timer.start, h.jobs])
  obtain ⟨ls, listening, hsub⟩ := subscribe_eq { s with
    pacer := (Pacer.start delays Duty.sweep (s.pacer, s.timer)).1
    timer := (Pacer.start delays Duty.sweep (s.pacer, s.timer)).2 }
  simp only [Prod.mk.injEq] at hsame
  obtain ⟨hpending, hcounts, hclock, hrunning, hnow⟩ := hsame
  have hstart : s.startPacing = ({ s with
      document := { s.document with listeners := ls }
      pacer := { (Pacer.start delays Duty.sweep (s.pacer, s.timer)).1 with listening }
      timer := (Pacer.start delays Duty.sweep (s.pacer, s.timer)).2 }.report
        [⟨.info, "表情重新分類排程器已啟動"⟩], true) := by
    unfold Session.startPacing
    rw [hdelays]
    dsimp only
    rw [if_pos rfl, hsub]
  rw [hstart]
  refine ⟨rfl, ⟨hclock.trans h.clock, hrunning, h.sweeper, ?_, ?_, fun task => ?_, ?_,
    fun i hi => ?_, fun j => ?_, ?_, by simp, by simp⟩, hnow, fun j hj => ?_⟩
  · show s.settings.debounceMs.whole.toNat = debounce
    rw [h.debounce]
    rfl
  · show (Pacer.start delays Duty.sweep (s.pacer, s.timer)).1.pending = (unanswered s.host).isSome
    rw [h.blank]
    exact hpending.trans (congrArg Pacer.pending h.pacer)
  · show ((Pacer.start delays Duty.sweep (s.pacer, s.timer)).1.counts.lookup _).getD 0 =
      sweeps task s.host
    rw [h.blank, Pacer.start, hcounts, h.pacer]
    rfl
  · show Faithful debounce _ s.host
    rw [h.blank]
    exact .blank
  · have hi : (i, Happening.swept .delayed) ∈ s.host := hi
    rw [h.blank] at hi
    cases hi
  · show j ∈ (Pacer.start delays Duty.sweep (s.pacer, s.timer)).2.jobs ++ [] ↔
      LeftToDo debounce s.timer.now delays s.host j
    rw [List.append_nil, h.blank]
    refine (hjobs j).trans ?_
    simp [LeftToDo, unanswered, Timer.start]
  · show Named ((Pacer.start delays Duty.sweep (s.pacer, s.timer)).2.jobs ++ [])
    rw [List.append_nil]
    exact hnamed
  · obtain ⟨x, _, rfl⟩ := (hjobs j).mp hj
    exact hnow ▸ Nat.le_add_right _ _

/-! ## What was promised -/

/-- What is promised of the sweeps up to now. The debounce job waits, and the pacer is pending, when a
notice has not been followed by a debounced sweep. -/
structure OnSchedule (debounce start : Nat) (delays : List Nat) (s : Session Diary) : Prop where
  /-- A debounced sweep has come a debounce after each notice that no other has put off. -/
  debounced : ∀ i, (i, .swept .debounced) ∈ s.host ↔
    i ≤ s.timer.now ∧ ∃ t, i = t + debounce ∧ Calm s.host debounce t
  /-- A delayed sweep has come at each delay after the start. -/
  delayed : ∀ i, (i, .swept .delayed) ∈ s.host ↔ i ≤ s.timer.now ∧ ∃ x ∈ delays, i = start + x
  once : ∀ i task, s.host.count (i, .swept task) ≤ 1
  counted : ∀ task, timesCounted s.pacer task = sweeps task s.host
  single : (s.timer.jobs.filter (·.id == debounceJob)).length ≤ 1
  waiting : s.timer.has debounceJob = true ↔ Waiting s.host
  pending : s.pacer.pending = true ↔ Waiting s.host

theorem PacedAt.onSchedule (h : PacedAt debounce start delays now s []) :
    OnSchedule debounce start delays s := by
  obtain rfl := h.time
  have hlater (j : Job Duty) (hleft : LeftToDo debounce start delays s.host j) :
      s.timer.now < j.due :=
    h.ahead j (h.mem_jobs.mpr hleft)
  refine ⟨fun i => ?_, fun i => ?_, h.faithful.once, h.counted, ?_, ?_, ?_⟩
  · rw [h.faithful.answers]
    constructor
    · rintro ⟨t, rfl, hcalm, hanswered⟩
      have hmem := (h.faithful.answers _).mpr ⟨t, rfl, hcalm, hanswered⟩
      exact ⟨h.faithful.past _ hmem, t, rfl, hcalm⟩
    · rintro ⟨hpast, t, rfl, hcalm⟩
      refine ⟨t, rfl, hcalm, fun hwaits => ?_⟩
      have hdue : s.timer.now < t + debounce := hlater _ (.inl ⟨t, hwaits, rfl⟩)
      omega
  · constructor
    · exact fun hmem => ⟨h.faithful.past _ hmem, h.planned i hmem⟩
    · rintro ⟨hpast, x, hx, rfl⟩
      refine Decidable.byContradiction fun hnew => ?_
      have hdue : s.timer.now < start + x := hlater _ (.inr ⟨x, hx, hnew, rfl⟩)
      omega
  · have hcount : (s.timer.jobs.map (·.id)).count debounceJob ≤ 1 :=
      List.nodup_iff_count.mp h.named_jobs debounceJob
    rwa [List.count, List.countP_map, List.countP_eq_length_filter] at hcount
  · rw [← isSome_unanswered, Option.isSome_iff_exists, Timer.has, List.any_eq_true]
    constructor
    · rintro ⟨j, hj, hid⟩
      rcases h.mem_jobs.mp hj with ⟨t, ht, -⟩ | ⟨x, -, -, rfl⟩
      · exact ⟨t, ht⟩
      · exact absurd (beq_iff_eq.mp hid) (delayedJob_ne x)
    · rintro ⟨t, ht⟩
      exact ⟨_, h.mem_jobs.mpr (.inl ⟨t, ht, rfl⟩), beq_self_eq_true _⟩
  · rw [h.pending]
    exact isSome_unanswered s.host

/-- **Over whole runs the sweeps come on schedule.** A session whose timer is its own is started, and
then takes notices and lets time pass, in any order. Its host may fail to sweep, and may give notices
while it sweeps. Debounced sweeps come a debounce after the notices that no other notice puts off, and
delayed sweeps at their delays after the start, one each. There is never more than one debounce job,
and the pacer is pending when a notice has not been followed by a debounced sweep. -/
theorem keepPace_onSchedule {sweep : Session Diary → Session Diary × Bool} (hpos : 0 < debounce)
    (hs : Unstarted debounce delays s) (hsweep : Unmeddling sweep) (turns : List Turn) :
    s.startPacing.2 = true ∧
      (keepPace (diarist sweep) s turns).timer.now = s.timer.now + spanOf turns ∧
      OnSchedule debounce s.timer.now delays (keepPace (diarist sweep) s turns) := by
  obtain ⟨hstarted, hpaced, hnow, hjobs⟩ := hs.paced
  have hready := hpaced.runDue hpos hsweep hjobs
  have hrun := hready.turns hpos hsweep turns
  rw [hnow] at hrun
  exact ⟨hstarted, hrun.time, hrun.onSchedule⟩

/-- A session with three delays, two of them the same, on an empty page. -/
def restlessSession : Session Diary where
  document.forest.page := .element 0 ⟨Markup.rootName, []⟩ []
  document.forest.loose := []
  document.forest.nextId := 1
  document.ready := true
  settings := { debounceMs := .int 50, delayedSweepsMs := .list [.int 0, .int 30, .int 30] }
  sweeper := .host
  owned := true
  timer := { Timer.idle .exact with now := 1000 }
  pacer := {}
  watcher := Watcher.under {}
  log := []
  host := []

/-- A sweeping that always fails, and at first gives a notice each time. -/
def restless (s : Session Diary) : Session Diary × Bool :=
  (if s.host.length < 5 then s.noted else s, false)

theorem unmeddling_restless : Unmeddling restless := by
  intro s
  unfold restless
  split
  · exact ⟨1, rfl⟩
  · exact ⟨0, rfl⟩

/-- The two delayed sweeps give a notice each, and the second puts the others off. -/
theorem keepPace_onSchedule_restless :
    0 < 50 ∧ Unstarted 50 [0, 30, 30] restlessSession ∧ Unmeddling restless ∧
      (keepPace (diarist restless) restlessSession [.pass 20, .notice, .pass 200]).host =
        [(1080, .swept .debounced), (1030, .notice), (1030, .swept .delayed), (1020, .notice),
          (1000, .notice), (1000, .swept .delayed)] ∧
      restlessSession.startPacing.2 = true ∧
      (keepPace (diarist restless) restlessSession [.pass 20, .notice, .pass 200]).timer.now =
        1220 ∧
      OnSchedule 50 1000 [0, 30, 30]
        (keepPace (diarist restless) restlessSession [.pass 20, .notice, .pass 200]) := by
  have hs : Unstarted 50 [0, 30, 30] restlessSession := ⟨rfl, rfl, rfl, rfl, rfl, rfl, rfl, rfl⟩
  exact ⟨by decide, hs, unmeddling_restless, by decide +kernel,
    keepPace_onSchedule (by decide) hs unmeddling_restless [.pass 20, .notice, .pass 200]⟩

end StickerPages.Live
