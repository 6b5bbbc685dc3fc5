import StickerPages.Proofs.Arrangements
import StickerPages.Proofs.Rounds

/-!
# Pacers on one timer

Several pacers may be given one timer, each with a page of its own. What the timer holds goes by
name, and every pacer gives its jobs the same names; so one pacer's notice takes the place of
another's debounce job, and one that stops drops whatever has a name that it has used.

`Commons` is such a timer with its pacers. A pacer in it is compared with a session that does the same
and has the timer to itself (`Alike`). Time makes no difference, for rounds come to doing one's own
jobs (`Serves.advance`), and what a pacer does itself is the same for both. What another does takes
away the jobs whose names it uses, and nothing else. So the two are alike as long as nobody uses a
name under which the pacer has a job waiting, and not longer (`alike_iff_spared`).
-/

namespace StickerPages.Live

open Timing

variable {ι τ α β : Type}

/-! ## What is asked of a pacer -/

/-- How long a pacer waits for changes to calm down, and when it sweeps besides. -/
structure Pace where
  debounce : Nat
  delays : List Nat

inductive Deed where
  | start
  | notice
  | stop
deriving DecidableEq, Repr

namespace Deed

/-- A deed on a timer that is not the pacer's own. -/
def apply (pace : Pace) (wrap : Task → α) (s : Pacer × Timer α) : Deed → Pacer × Timer α
  | .start => Pacer.start pace.delays wrap s
  | .notice => Pacer.notify pace.debounce wrap s
  | .stop => Pacer.stop false s

/-- The names under which jobs are put or dropped. -/
def names (pace : Pace) (p : Pacer) : Deed → List String
  | .start => pace.delays.map delayedJob
  | .notice => [debounceJob]
  | .stop => p.made

end Deed

/-! ## The common timer -/

/-- Whose job it is. -/
inductive Errand (ι : Type) where
  | sweep (who : ι) (task : Task)
  | host
deriving DecidableEq, Repr

/-- A timer and the pacers that share it. -/
structure Commons (ι : Type) where
  timer : Timer (Errand ι)
  pacer : ι → Pacer

/-- What happens to a timer that is shared. -/
inductive Act (ι : Type) where
  | deed (who : ι) (what : Deed)
  | pass (ms : Nat)

namespace Commons

variable [DecidableEq ι]

def withPacer (c : Commons ι) (i : ι) (p : Pacer) : Commons ι :=
  { c with pacer := fun j => if j = i then p else c.pacer j }

/-- Does what is due. -/
def perform (c : Commons ι) : Errand ι → Commons ι
  | .sweep i .debounced => c.withPacer i ((Pacer.settle (c.pacer i, c.timer)).count "debounce")
  | .sweep i .delayed => c.withPacer i ((c.pacer i).count "delayed")
  | .host => c

def worker : Worker (Commons ι) (Errand ι) where
  timer := Commons.timer
  retimed c t := { c with timer := t }
  perform := Commons.perform

def act (paces : ι → Pace) (c : Commons ι) : Act ι → Commons ι
  | .deed i d =>
    let (pacer, timer) := d.apply (paces i) (Errand.sweep i) (c.pacer i, c.timer)
    { c with timer }.withPacer i pacer
  | .pass ms => worker.advance ms c

def run (paces : ι → Pace) (c : Commons ι) (acts : List (Act ι)) : Commons ι :=
  acts.foldl (act paces) c

end Commons

/-! ## A session that has the timer to itself -/

namespace Session

def deed (s : Session τ) : Deed → Session τ
  | .start => s.startPacing.1
  | .notice => s.notify
  | .stop => s.stopPacing

/-- What happens to a session that hears of its own deeds only. -/
def act [DecidableEq ι] (x : ι) (s : Session τ) : Act ι → Session τ
  | .deed i d => if i = x then s.deed d else s
  | .pass ms => s.advance Hooks.idle ms

def acts [DecidableEq ι] (x : ι) (s : Session τ) (as : List (Act ι)) : Session τ :=
  as.foldl (act x) s

def worker : Worker (Session τ) Duty where
  timer := Session.timer
  retimed s t := { s with timer := t }
  perform := Session.perform Hooks.idle

/-- A session's rounds are those of anything with a timer. -/
theorem advance_worker (s : Session τ) (ms : Nat) :
    s.advance Hooks.idle ms = worker.advance ms s := by
  have hrounds (instant n : Nat) : ∀ s : Session τ,
      s.runRounds Hooks.idle n instant = worker.runRounds n instant s := by
    induction n with
    | zero => exact fun _ => rfl
    | succ n ih =>
        intro s
        have hsame : (worker.timer s).nextRung? instant = s.timer.nextRung? instant := rfl
        rw [Session.runRounds, Worker.runRounds, hsame]
        cases s.timer.nextRung? instant with
        | none => rfl
        | some due => exact ih _
  unfold Session.advance Worker.advance
  dsimp only
  rw [hrounds]
  rfl

end Session

/-! ## Books -/

/-- A pacer's state, but for whether it listens to its page. -/
def books (p : Pacer) : Pacer := { p with listening := false }

theorem books_noting (p : Pacer) (id : String) : books (p.noting id) = (books p).noting id := by
  unfold Pacer.noting
  by_cases h : p.made.contains id = true
  · rw [if_pos h, if_pos (show (books p).made.contains id = true from h)]
  · rw [if_neg h, if_neg (show ¬ (books p).made.contains id = true from h)]
    rfl

/-- What a duty is to a session's pacer. -/
def taskOfDuty : Duty → Option Task
  | .sweep task => some task
  | .host => none

/-- What an errand is to one of the pacers. -/
def taskOf [DecidableEq ι] (x : ι) : Errand ι → Option Task
  | .sweep i task => if i = x then some task else none
  | .host => none

@[simp]
theorem taskOf_own [DecidableEq ι] (x : ι) (task : Task) :
    taskOf x (.sweep x task) = some task := if_pos rfl

theorem taskOf_other [DecidableEq ι] {x i : ι} (h : i ≠ x) (task : Task) :
    taskOf x (.sweep i task) = none := if_neg h

theorem taskOf_eq_some [DecidableEq ι] {x : ι} {e : Errand ι} {task : Task}
    (h : taskOf x e = some task) : e = .sweep x task := by
  cases e with
  | host => cases h
  | sweep i task' =>
      by_cases hi : i = x
      · rw [hi, taskOf_own] at h
        rw [hi, Option.some.inj h]
      · rw [taskOf_other hi] at h
        cases h

/-- A sweep rewrites the page or reports that it failed, and counts either way. -/
theorem sweepNow_idle (s : Session τ) (reason : String) : ∃ document log,
    (s.sweepNow Hooks.idle reason).1 =
      { s with document, log, pacer := s.pacer.count reason } := by
  unfold Session.sweepNow
  dsimp only
  split
  · split <;> exact ⟨_, _, rfl⟩
  · exact ⟨_, _, rfl⟩

theorem perform_idle (s : Session τ) (d : Duty) :
    (s.perform Hooks.idle d).timer = s.timer ∧ (s.perform Hooks.idle d).settings = s.settings ∧
      (s.perform Hooks.idle d).owned = s.owned := by
  have hswept (s : Session τ) (reason : String) :
      (s.sweepNow Hooks.idle reason).1.timer = s.timer ∧
        (s.sweepNow Hooks.idle reason).1.settings = s.settings ∧
        (s.sweepNow Hooks.idle reason).1.owned = s.owned := by
    obtain ⟨document, log, hs⟩ := sweepNow_idle s reason
    rw [hs]
    exact ⟨rfl, rfl, rfl⟩
  cases d with
  | host => exact ⟨rfl, rfl, rfl⟩
  | sweep task =>
      cases task with
      | delayed => exact hswept s "delayed"
      | debounced => exact hswept _ "debounce"

theorem settle_free {p : Pacer} {t : Timer α} (h : t.has debounceJob = false) :
    Pacer.settle (p, t) = { p with pending := false } := by
  rw [Pacer.settle, h, if_neg Bool.false_ne_true]

theorem serves_session :
    Serves (Session.worker (τ := τ)) taskOfDuty fun s => books s.pacer where
  timer_retimed _ _ := rfl
  books_retimed _ _ := rfl
  timer_perform s d := (perform_idle s d).1
  others s d hd := by
    cases d with
    | host => rfl
    | sweep task => cases hd
  own s d task hd hfree := by
    cases d with
    | host => cases hd
    | sweep task' =>
        cases hd
        have hcounted (s : Session τ) (reason : String) :
            books (s.sweepNow Hooks.idle reason).1.pacer = books (s.pacer.count reason) := by
          obtain ⟨document, log, hs⟩ := sweepNow_idle s reason
          rw [hs]
        cases task with
        | delayed => exact hcounted s "delayed"
        | debounced =>
            have hfree : s.timer.has debounceJob = false := hfree rfl
            refine (hcounted _ "debounce").trans ?_
            dsimp only
            rw [settle_free hfree]
            rfl

theorem serves_commons [DecidableEq ι] (x : ι) :
    Serves (Commons.worker (ι := ι)) (taskOf x) fun c => books (c.pacer x) where
  timer_retimed _ _ := rfl
  books_retimed _ _ := rfl
  timer_perform c e := by
    cases e with
    | host => rfl
    | sweep i task => cases task <;> rfl
  others c e he := by
    cases e with
    | host => rfl
    | sweep i task =>
        have hi : x ≠ i := by
          rintro rfl
          simp at he
        cases task <;> exact congrArg books (if_neg hi)
  own c e task he hfree := by
    cases e with
    | host => cases he
    | sweep i task' =>
        cases taskOf_eq_some he
        cases task with
        | delayed => exact congrArg books (if_pos rfl)
        | debounced =>
            -- with its own job gone there is none of that name, so the pacer is pending no more
            have hfree : c.timer.has debounceJob = false := hfree rfl
            refine (congrArg books (if_pos rfl)).trans ?_
            rw [settle_free hfree]
            rfl

/-! ## Deeds -/

/-- A pacer in one timer and a pacer in another have the same books and the same jobs. -/
structure Twin (task? : α → Option Task) (other? : β → Option Task) (a : Pacer × Timer α)
    (b : Pacer × Timer β) : Prop where
  books : books a.1 = books b.1
  jobs : agenda task? a.2 = agenda other? b.2
  now : a.2.now = b.2.now
  running : a.2.running = true ∧ b.2.running = true

section

variable {task? : α → Option Task} {other? : β → Option Task} {wrap : Task → α}
  {wrap' : Task → β} {pace : Pace} {p : Pacer} {t : Timer α} {a : Pacer × Timer α}
  {b : Pacer × Timer β}

theorem agenda_put (t : Timer α) (id : String) (delay : Nat) (job : α) :
    agenda task? (t.put id delay job) =
      (agenda task? t).filter (·.id != id) ++
        ((task? job).map fun task => (⟨id, t.now + delay, task⟩ : Job Task)).toList := by
  unfold agenda Timer.put
  rw [List.filterMap_append, filterMap_filter (fun name _ => name != id)]
  cases hj : task? job <;> simp [own?, hj]

theorem agenda_dropAll (t : Timer α) (ids : List String) :
    agenda task? (t.dropAll ids) = (agenda task? t).filter fun j => !ids.contains j.id := by
  rw [Timer.dropAll_eq]
  exact filterMap_filter (fun name _ => !ids.contains name) t.jobs

theorem Twin.put (h : Twin task? other? a b) (hwrap : ∀ task, task? (wrap task) = some task)
    (hwrap' : ∀ task, other? (wrap' task) = some task) (id : String) (delay : Nat) (task : Task)
    {p q : Pacer} (hbooks : Live.books p = Live.books q) :
    Twin task? other? (p.noting id, a.2.put id delay (wrap task))
      (q.noting id, b.2.put id delay (wrap' task)) := by
  refine ⟨?_, ?_, h.now, h.running⟩
  · dsimp only
    rw [books_noting, books_noting, hbooks]
  · dsimp only
    rw [agenda_put, agenda_put, hwrap, hwrap', h.jobs, h.now]

/-- **Twins that do the same stay twins.** -/
theorem Twin.apply (h : Twin task? other? a b) (hwrap : ∀ task, task? (wrap task) = some task)
    (hwrap' : ∀ task, other? (wrap' task) = some task) (pace : Pace) (d : Deed) :
    Twin task? other? (d.apply pace wrap a) (d.apply pace wrap' b) := by
  cases d with
  | notice =>
      have hpending : Live.books { a.1 with pending := true } =
          Live.books { b.1 with pending := true } :=
        congrArg (fun p : Pacer => { p with pending := true }) h.books
      simp only [Deed.apply, Pacer.notify, h.running.1, h.running.2, if_true]
      exact h.put hwrap hwrap' debounceJob pace.debounce .debounced hpending
  | start =>
      have hstarted : Twin task? other? (a.1, a.2.start) (b.1, b.2.start) :=
        ⟨h.books, h.jobs, h.now, rfl, rfl⟩
      exact List.foldl_rel (r := Twin task? other?) hstarted fun d _ _ _ h =>
        h.put hwrap hwrap' (delayedJob d) d .delayed h.books
  | stop =>
      have hmade : (Live.books a.1).made = (Live.books b.1).made := congrArg Pacer.made h.books
      have hmade : a.1.made = b.1.made := hmade
      have hbooks : Live.books { a.1 with pending := false, made := [] } =
          Live.books { b.1 with pending := false, made := [] } :=
        congrArg (fun p : Pacer => { p with pending := false, made := [] }) h.books
      simp only [Deed.apply, Pacer.stop, h.running.1, h.running.2, if_true]
      refine ⟨hbooks, ?_, ?_, ?_⟩
      · simp [agenda_dropAll, hmade, h.jobs]
      · simp [Timer.dropAll_eq, h.now]
      · simp [Timer.dropAll_eq, h.running]

/-- **A deed drops the jobs whose names it uses**, and puts jobs of its own under such names. -/
theorem apply_eq (wrap : Task → α) (hrunning : a.2.running = true) (pace : Pace) (d : Deed) :
    ∃ new, (∀ j ∈ new, j.id ∈ d.names pace a.1 ∧ ∃ task, j.task = wrap task) ∧
      (d.apply pace wrap a).2.jobs =
        (a.2.jobs.filter fun j => !(d.names pace a.1).contains j.id) ++ new ∧
      (d.apply pace wrap a).2.now = a.2.now ∧ (d.apply pace wrap a).2.running = true := by
  cases d with
  | notice =>
      simp only [Deed.apply, Pacer.notify, hrunning, if_true]
      refine ⟨[⟨debounceJob, a.2.now + pace.debounce, wrap .debounced⟩], ?_, ?_, rfl, hrunning⟩
      · simp [Deed.names]
      · exact congrArg (· ++ _) (List.filter_congr fun j _ =>
          Bool.eq_iff_iff.mpr (by simp [Deed.names]))
  | start =>
      have hfold (ds : List Nat) : ∀ a : Pacer × Timer α,
          ∃ new, (∀ j ∈ new, j.id ∈ ds.map delayedJob ∧ ∃ task, j.task = wrap task) ∧
            (ds.foldl (Pacer.delay wrap) a).2.jobs =
              (a.2.jobs.filter fun j => !(ds.map delayedJob).contains j.id) ++ new ∧
            (ds.foldl (Pacer.delay wrap) a).2.now = a.2.now ∧
            (ds.foldl (Pacer.delay wrap) a).2.running = a.2.running := by
        induction ds with
        | nil =>
            intro a
            refine ⟨[], by simp, ?_, rfl, rfl⟩
            rw [List.append_nil]
            exact (List.filter_eq_self.mpr fun _ _ => rfl).symm
        | cons d r ih =>
            -- the job of the first delay stays, unless it is made anew for another
            intro a
            obtain ⟨new, hnew, hjobs, hnow, hrun⟩ := ih (Pacer.delay wrap a d)
            let first : Job α := ⟨delayedJob d, a.2.now + d, wrap .delayed⟩
            refine ⟨[first].filter (fun j => !(r.map delayedJob).contains j.id) ++ new, ?_, ?_,
              hnow, hrun⟩
            · intro j hj
              rcases List.mem_append.mp hj with hj | hj
              · obtain rfl := List.mem_singleton.mp (List.mem_filter.mp hj).1
                exact ⟨List.mem_cons_self, .delayed, rfl⟩
              · exact ⟨List.mem_cons_of_mem _ (hnew j hj).1, (hnew j hj).2⟩
            · refine hjobs.trans ?_
              simp only [Pacer.delay, Timer.put]
              rw [List.filter_append, List.append_assoc, List.filter_filter]
              exact congrArg (· ++ _) (List.filter_congr fun j _ =>
                Bool.eq_iff_iff.mpr (by simp [and_comm]))
      exact hfold pace.delays (a.1, a.2.start)
  | stop =>
      simp only [Deed.apply, Pacer.stop, hrunning, if_true, Bool.false_eq_true, if_false]
      rw [Timer.dropAll_eq]
      exact ⟨[], by simp, (List.append_nil _).symm, rfl, hrunning⟩

/-- Another's deed takes away the jobs whose names it uses, and no others. -/
theorem agenda_apply_other (hwrap : ∀ task, task? (wrap task) = none)
    (hrunning : a.2.running = true) (pace : Pace) (d : Deed) :
    agenda task? (d.apply pace wrap a).2 =
      (agenda task? a.2).filter fun j => !(d.names pace a.1).contains j.id := by
  obtain ⟨new, hnew, hjobs, _⟩ := apply_eq wrap hrunning pace d
  have hnone : new.filterMap (own? task?) = [] := by
    refine List.filterMap_eq_nil_iff.mpr fun j hj => ?_
    obtain ⟨_, task, htask⟩ := hnew j hj
    rw [own?, htask, hwrap]
    rfl
  rw [agenda, hjobs, List.filterMap_append, hnone, List.append_nil]
  exact filterMap_filter (fun name _ => !(d.names pace a.1).contains name) a.2.jobs

/-- Jobs of other names stay as they are. -/
theorem mem_apply (hrunning : a.2.running = true) (pace : Pace) (d : Deed) {j : Job α}
    (hj : j.id ∉ d.names pace a.1) : j ∈ (d.apply pace wrap a).2.jobs ↔ j ∈ a.2.jobs := by
  obtain ⟨new, hnew, hjobs, _⟩ := apply_eq wrap hrunning pace d
  rw [hjobs, List.mem_append, List.mem_filter]
  refine ⟨?_, fun hmem => .inl ⟨hmem, by simpa using hj⟩⟩
  rintro (⟨hmem, _⟩ | hmem)
  · exact hmem
  · exact absurd (hnew j hmem).1 hj

theorem orderly_put (h : Orderly task? t) {id : String} {job : α}
    (hid : task? job = some .debounced → id = debounceJob) (delay : Nat) :
    Orderly task? (t.put id delay job) := by
  refine ⟨h.clock, h.running, ?_, fun j hj hdeb => ?_⟩
  · -- nothing is in hand here
    have hnamed : Named (t.jobs ++ []) := by
      rw [List.append_nil]
      exact h.named
    have hput : Named ((t.put id delay job).jobs ++ []) :=
      t.put_named (fun _ hj => absurd hj List.not_mem_nil) hnamed
    rwa [List.append_nil] at hput
  · rcases (t.mem_put).mp hj with ⟨hold, _⟩ | rfl
    · exact h.debounce j hold hdeb
    · exact hid hdeb

/-- Deeds leave a timer in order, whoever does them. -/
theorem orderly_apply (h : Orderly task? a.2)
    (hwrap : ∀ task, task? (wrap task) = some .debounced → task = .debounced) (pace : Pace)
    (d : Deed) : Orderly task? (d.apply pace wrap a).2 := by
  cases d with
  | notice =>
      simp only [Deed.apply, Pacer.notify, h.running, if_true]
      exact orderly_put h (fun _ => rfl) _
  | start =>
      have hdelayed : task? (wrap .delayed) ≠ some .debounced :=
        fun hdeb => absurd (hwrap .delayed hdeb) (by decide)
      have hstarted : Orderly task? a.2.start := ⟨h.clock, rfl, h.named, h.debounce⟩
      exact List.foldlRecOn (motive := fun a : Pacer × Timer α => Orderly task? a.2)
        pace.delays (Pacer.delay wrap) hstarted fun _ h d _ =>
          orderly_put h (fun hdeb => absurd hdeb hdelayed) d
  | stop =>
      simp only [Deed.apply, Pacer.stop, h.running, if_true, Bool.false_eq_true, if_false]
      rw [Timer.dropAll_eq]
      exact ⟨h.clock, h.running, h.named.sublist (List.filter_sublist.map _),
        fun j hj => h.debounce j (List.mem_filter.mp hj).1⟩

end

/-! ## A session alone -/

/-- A session that keeps this pace on a timer that is not its own. -/
structure Lone (pace : Pace) (s : Session τ) : Prop where
  lent : s.owned = false
  debounce : s.debounce = pace.debounce
  delays : s.delays.1 = pace.delays

namespace Lone

variable {pace : Pace} {s s' : Session τ}

theorem congr (h : Lone pace s) (hsettings : s'.settings = s.settings)
    (howned : s'.owned = s.owned) : Lone pace s' := by
  refine ⟨howned.trans h.lent, ?_, ?_⟩
  · rw [← h.debounce, Session.debounce, hsettings, Session.debounce]
  · rw [← h.delays, delays_congr hsettings]

theorem advance (h : Lone pace s) (ms : Nat) : Lone pace (s.advance Hooks.idle ms) :=
  advance_keeps (P := Lone pace) (Q := fun _ => True) (fun _ _ h => h.congr rfl rfl)
    (fun _ _ _ => trivial)
    (fun {s d} _ h => h.congr (perform_idle s d).2.1 (perform_idle s d).2.2) h ms

/-- A session does to its timer and books what its pacer does. -/
theorem deed (h : Lone pace s) (d : Deed) :
    Lone pace (s.deed d) ∧
      (s.deed d).timer = (d.apply pace Duty.sweep (s.pacer, s.timer)).2 ∧
      books (s.deed d).pacer = books (d.apply pace Duty.sweep (s.pacer, s.timer)).1 := by
  cases d with
  | notice =>
      refine ⟨h.congr rfl rfl, ?_, ?_⟩
      all_goals
        simp only [Deed.apply, ← h.debounce]
        rfl
  | start =>
      simp only [Deed.apply, ← h.delays]
      unfold Session.deed Session.startPacing
      dsimp only
      split
      · obtain ⟨ls, listening, hsub⟩ := subscribe_eq { s with
          pacer := (Pacer.start s.delays.1 Duty.sweep (s.pacer, s.timer)).1
          timer := (Pacer.start s.delays.1 Duty.sweep (s.pacer, s.timer)).2 }
        rw [hsub]
        exact ⟨h.congr rfl rfl, rfl, rfl⟩
      · exact ⟨h.congr rfl rfl, rfl, rfl⟩
  | stop =>
      have hdeaf (p : Pacer) (t : Timer Duty) (listening : Bool) :
          (Pacer.stop false ({ p with listening }, t)).2 = (Pacer.stop false (p, t)).2 ∧
            books (Pacer.stop false ({ p with listening }, t)).1 =
              books (Pacer.stop false (p, t)).1 := by
        unfold Pacer.stop
        split <;> exact ⟨rfl, rfl⟩
      unfold Session.deed Session.stopPacing Session.unsubscribe
      dsimp only
      split
      · -- whether it listens makes no difference to its jobs
        refine ⟨h.congr rfl rfl, ?_, ?_⟩
        · exact (congrArg (fun b => (Pacer.stop b _).2) h.lent).trans (hdeaf _ _ false).1
        · exact (congrArg (fun b => books (Pacer.stop b _).1) h.lent).trans (hdeaf _ _ false).2
      · refine ⟨h.congr rfl rfl, ?_, ?_⟩
        · exact congrArg (fun b => (Pacer.stop b (s.pacer, s.timer)).2) h.lent
        · exact congrArg (fun b => books (Pacer.stop b (s.pacer, s.timer)).1) h.lent

end Lone

/-! ## A pacer among others and a session alone -/

section

variable [DecidableEq ι] {paces : ι → Pace} {x i : ι} {c : Commons ι} {s : Session τ}

/-- A pacer has the books and the jobs of a session that has the timer to itself: as many sweeps for
each reason, the same state, the same names in mind, and the same sweeps to come. -/
structure Alike (x : ι) (c : Commons ι) (s : Session τ) : Prop where
  books : books (c.pacer x) = books s.pacer
  jobs : agenda (taskOf x) c.timer = agenda taskOfDuty s.timer

/-- Nobody but a pacer itself uses a name under which it has a job waiting. -/
def Spares (paces : ι → Pace) (x : ι) (c : Commons ι) : Act ι → Prop
  | .deed i d => i ≠ x → ∀ j ∈ c.timer.jobs, ∀ task, j.task = .sweep x task →
      j.id ∉ d.names (paces i) (c.pacer i)
  | .pass _ => True

/-- A pacer that has been like its session up to now. -/
structure Paired (pace : Pace) (x : ι) (c : Commons ι) (s : Session τ) : Prop where
  lone : Lone pace s
  twin : Twin (taskOf x) taskOfDuty (c.pacer x, c.timer) (s.pacer, s.timer)
  common : Orderly (taskOf x) c.timer
  alone : Orderly taskOfDuty s.timer

theorem Paired.alike {pace : Pace} (h : Paired pace x c s) : Alike x c s :=
  ⟨h.twin.books, h.twin.jobs⟩

theorem debounced_of_taskOf (i : ι) (task : Task)
    (h : taskOf x (.sweep i task) = some .debounced) : task = .debounced := by
  cases taskOf_eq_some h
  rfl

namespace Paired

/-- What a pacer does itself is the same for both. -/
theorem own (h : Paired (paces x) x c s) (d : Deed) :
    Paired (paces x) x (c.act paces (.deed x d)) (s.deed d) := by
  obtain ⟨hlone, htimer, hbooks⟩ := h.lone.deed d
  have hduty (task : Task) (hdeb : taskOfDuty (.sweep task) = some .debounced) :
      task = .debounced := Option.some.inj hdeb
  have hcommon : Orderly (taskOf x) (d.apply (paces x) (Errand.sweep x) (c.pacer x, c.timer)).2 :=
    orderly_apply h.common (debounced_of_taskOf x) (paces x) d
  have halone : Orderly taskOfDuty (d.apply (paces x) Duty.sweep (s.pacer, s.timer)).2 :=
    orderly_apply h.alone hduty (paces x) d
  have htwin : Twin (taskOf x) taskOfDuty
      (d.apply (paces x) (Errand.sweep x) (c.pacer x, c.timer))
      (d.apply (paces x) Duty.sweep (s.pacer, s.timer)) :=
    h.twin.apply (taskOf_own x) (fun _ => rfl) (paces x) d
  refine ⟨hlone, ⟨?_, ?_, ?_, ?_, ?_⟩, hcommon, htimer ▸ halone⟩
  · exact (congrArg books (if_pos rfl)).trans (htwin.books.trans hbooks.symm)
  · exact htwin.jobs.trans (congrArg (agenda taskOfDuty) htimer.symm)
  · exact htwin.now.trans (congrArg Timer.now htimer.symm)
  · exact htwin.running.1
  · exact (congrArg Timer.running htimer).trans htwin.running.2

/-- What another does takes away the jobs whose names it uses. -/
theorem agenda_other (h : Paired (paces x) x c s) (hi : i ≠ x) (d : Deed) :
    agenda (taskOf x) (c.act paces (.deed i d)).timer =
      (agenda (taskOf x) c.timer).filter fun j =>
        !(d.names (paces i) (c.pacer i)).contains j.id :=
  agenda_apply_other (a := (c.pacer i, c.timer)) (taskOf_other hi) h.common.running (paces i) d

theorem other (h : Paired (paces x) x c s) (hi : i ≠ x) (d : Deed)
    (hsame : agenda (taskOf x) (c.act paces (.deed i d)).timer = agenda (taskOf x) c.timer) :
    Paired (paces x) x (c.act paces (.deed i d)) s := by
  obtain ⟨_, _, _, hnow, hrunning⟩ := apply_eq (a := (c.pacer i, c.timer)) (Errand.sweep i)
    h.common.running (paces i) d
  refine ⟨h.lone, ⟨?_, hsame.trans h.twin.jobs, hnow.trans h.twin.now, hrunning,
    h.twin.running.2⟩, ?_, h.alone⟩
  · exact (congrArg books (if_neg hi.symm)).trans h.twin.books
  · exact orderly_apply h.common (debounced_of_taskOf i) (paces i) d

/-- **Time makes no difference**: both do the same jobs in the same order. -/
theorem pass (h : Paired (paces x) x c s) (ms : Nat) :
    Paired (paces x) x (c.act paces (.pass ms)) (s.advance Hooks.idle ms) := by
  have hlone := h.lone.advance ms
  rw [Session.advance_worker] at hlone ⊢
  obtain ⟨since, htimer, hbooks⟩ := (serves_commons x).advance (s := c) h.common ms
  obtain ⟨since', htimer', hbooks'⟩ := serves_session.advance (s := s) h.alone ms
  have hjobs : agenda (taskOf x) (Commons.worker.timer c) =
      agenda taskOfDuty (Session.worker.timer s) := h.twin.jobs
  have hnow : (Commons.worker.timer c).now = (Session.worker.timer s).now := h.twin.now
  have hsame : books (c.pacer x) = books s.pacer := h.twin.books
  -- what is left in each timer is a part of what was there
  have hcommon : Orderly (taskOf x) (Commons.worker.timer (Commons.worker.advance ms c)) :=
    htimer ▸ h.common.later _ _ _
  have halone : Orderly taskOfDuty (Session.worker.timer (Session.worker.advance ms s)) :=
    htimer' ▸ h.alone.later _ _ _
  refine ⟨hlone, ⟨?_, ?_, ?_, ?_, ?_⟩, hcommon, halone⟩
  · -- the same jobs are due, and in the same order
    refine hbooks.trans (Eq.trans ?_ hbooks'.symm)
    rw [hsame, hjobs, hnow]
  · have hleft := agenda_later (taskOf x) (congrArg Timer.jobs htimer)
    have hleft' := agenda_later taskOfDuty (congrArg Timer.jobs htimer')
    refine hleft.trans (Eq.trans ?_ hleft'.symm)
    rw [hjobs, hnow]
  · refine (congrArg Timer.now htimer).trans (Eq.trans ?_ (congrArg Timer.now htimer').symm)
    exact congrArg (· + ms) hnow
  · exact (congrArg Timer.running htimer).trans h.twin.running.1
  · exact (congrArg Timer.running htimer').trans h.twin.running.2

end Paired

theorem mem_agenda {ids : List String} :
    (∀ k ∈ agenda (taskOf x) c.timer, k.id ∉ ids) ↔
      ∀ j ∈ c.timer.jobs, ∀ task, j.task = .sweep x task → j.id ∉ ids := by
  constructor
  · intro h j hj task htask
    refine h ⟨j.id, j.due, task⟩ (List.mem_filterMap.mpr ⟨j, hj, ?_⟩)
    rw [own?, htask, taskOf_own]
    rfl
  · intro h k hk
    obtain ⟨j, hj, hown⟩ := List.mem_filterMap.mp hk
    obtain ⟨hid, _, htask⟩ := own?_eq_some hown
    exact hid ▸ h j hj k.task (taskOf_eq_some htask)

/-- **One more act leaves the two alike exactly if it spares the pacer.** -/
theorem Paired.act (h : Paired (paces x) x c s) (a : Act ι) :
    (Alike x (c.act paces a) (s.act x a) → Spares paces x c a) ∧
      (Spares paces x c a → Paired (paces x) x (c.act paces a) (s.act x a)) := by
  cases a with
  | pass ms => exact ⟨fun _ => trivial, fun _ => h.pass ms⟩
  | deed i d =>
      by_cases hi : i = x
      · subst hi
        refine ⟨fun _ hne => absurd rfl hne, fun _ => ?_⟩
        rw [Session.act, if_pos rfl]
        exact h.own d
      · rw [Session.act, if_neg hi]
        -- the jobs that are left are all there were just when none has a name in use
        have hother := h.agenda_other hi d
        constructor
        · intro halike _
          have hkept := List.filter_eq_self.mp
            (hother.symm.trans (halike.jobs.trans h.twin.jobs.symm))
          exact mem_agenda.mp fun k hk => by simpa using hkept k hk
        · intro hspares
          refine h.other hi d (hother.trans (List.filter_eq_self.mpr fun k hk => ?_))
          simpa using mem_agenda.mpr (hspares hi) k hk

/-! ## The host's jobs -/

/-- A name that pacers give to their jobs. -/
def Reserved (id : String) : Prop := id = debounceJob ∨ ∃ delay, id = delayedJob delay

theorem reserved_names {pace : Pace} {p : Pacer} (h : ∀ id ∈ p.made, Reserved id) (d : Deed) :
    ∀ id ∈ d.names pace p, Reserved id := by
  intro id hid
  cases d with
  | start =>
      obtain ⟨delay, _, rfl⟩ := List.mem_map.mp hid
      exact .inr ⟨delay, rfl⟩
  | notice => exact .inl (List.mem_singleton.mp hid)
  | stop => exact h id hid

theorem reserved_noting {p : Pacer} (h : ∀ id ∈ p.made, Reserved id) {id : String}
    (hid : Reserved id) : ∀ n ∈ (p.noting id).made, Reserved n := by
  intro n hn
  unfold Pacer.noting at hn
  split at hn
  · exact h n hn
  · rcases List.mem_append.mp hn with hn | hn
    · exact h n hn
    · exact List.mem_singleton.mp hn ▸ hid

theorem reserved_apply {pace : Pace} {wrap : Task → α} {a : Pacer × Timer α}
    (h : ∀ id ∈ a.1.made, Reserved id) (d : Deed) :
    ∀ id ∈ (d.apply pace wrap a).1.made, Reserved id := by
  cases d with
  | start =>
      exact List.foldlRecOn (motive := fun a : Pacer × Timer α => ∀ id ∈ a.1.made, Reserved id)
        pace.delays (Pacer.delay wrap) h fun _ h d _ => reserved_noting h (.inr ⟨d, rfl⟩)
  | notice =>
      unfold Deed.apply Pacer.notify
      dsimp only
      split
      · exact reserved_noting (p := { a.1 with pending := true }) h (.inl rfl)
      · exact h
  | stop =>
      unfold Deed.apply Pacer.stop
      dsimp only
      split
      · exact fun _ hid => absurd hid List.not_mem_nil
      · exact h

theorem made_allDone (jobs : List (Job Task)) : ∀ p : Pacer, (allDone p jobs).made = p.made := by
  induction jobs with
  | nil => exact fun _ => rfl
  | cons j r ih =>
      intro p
      refine (ih (p.done j.task)).trans ?_
      cases j.task <;> rfl

/-- A common timer beside one on which time alone has passed. -/
structure Hosted (c c' : Commons ι) : Prop where
  made : ∀ i, ∀ id ∈ (c.pacer i).made, Reserved id
  common : ∀ i, Orderly (taskOf i) c.timer
  alone : ∀ i, Orderly (taskOf i) c'.timer
  now : c.timer.now = c'.timer.now
  same : ∀ j : Job (Errand ι), ¬ Reserved j.id → (j ∈ c.timer.jobs ↔ j ∈ c'.timer.jobs)

namespace Hosted

variable {c' : Commons ι}

theorem deed (h : Hosted c c') (i : ι) (d : Deed) : Hosted (c.act paces (.deed i d)) c' := by
  have hrunning : c.timer.running = true := (h.common i).running
  obtain ⟨_, _, _, hnow, _⟩ := apply_eq (a := (c.pacer i, c.timer)) (Errand.sweep i) hrunning
    (paces i) d
  refine ⟨fun k id hid => ?_, fun k => ?_, h.alone, hnow.trans h.now, fun j hj => ?_⟩
  · by_cases hk : k = i
    · rw [show (c.act paces (.deed i d)).pacer k = _ from if_pos hk] at hid
      exact reserved_apply (a := (c.pacer i, c.timer)) (h.made i) d id hid
    · rw [show (c.act paces (.deed i d)).pacer k = _ from if_neg hk] at hid
      exact h.made k id hid
  · exact orderly_apply (h.common k) (debounced_of_taskOf i) (paces i) d
  · -- whatever the deed uses is a pacer's name
    refine Iff.trans ?_ (h.same j hj)
    exact mem_apply (a := (c.pacer i, c.timer)) hrunning (paces i) d
      fun hid => hj (reserved_names (h.made i) d _ hid)

theorem pass (h : Hosted c c') (x : ι) (ms : Nat) :
    Hosted (c.act paces (.pass ms)) (c'.act paces (.pass ms)) := by
  have hadvance (i : ι) := (serves_commons i).advance (s := c) (h.common i) ms
  have hadvance' (i : ι) := (serves_commons i).advance (s := c') (h.alone i) ms
  obtain ⟨since, htimer, _⟩ := hadvance x
  obtain ⟨since', htimer', _⟩ := hadvance' x
  have hnow : (Commons.worker.timer c).now = (Commons.worker.timer c').now := h.now
  refine ⟨fun i id hid => ?_, fun i => ?_, fun i => ?_, ?_, fun j hj => ?_⟩
  · obtain ⟨_, _, hbooks⟩ := hadvance i
    have hmade := (congrArg Pacer.made hbooks).trans (made_allDone _ _)
    exact h.made i id (hmade ▸ hid)
  · have horderly : Orderly (taskOf i) (Commons.worker.timer (Commons.worker.advance ms c)) :=
      htimer ▸ (h.common i).later _ _ _
    exact horderly
  · have horderly : Orderly (taskOf i) (Commons.worker.timer (Commons.worker.advance ms c')) :=
      htimer' ▸ (h.alone i).later _ _ _
    exact horderly
  · refine (congrArg Timer.now htimer).trans (Eq.trans ?_ (congrArg Timer.now htimer').symm)
    exact congrArg (· + ms) hnow
  · have hleft : j ∈ (c.act paces (.pass ms)).timer.jobs ↔ _ :=
      (congrArg (j ∈ ·.jobs) htimer).to_iff.trans List.mem_filter
    have hleft' : j ∈ (c'.act paces (.pass ms)).timer.jobs ↔ _ :=
      (congrArg (j ∈ ·.jobs) htimer').to_iff.trans List.mem_filter
    rw [hleft, hleft', hnow]
    exact and_congr_left fun _ => h.same j hj

end Hosted

/-! ## Runs -/

/-- A timer at work, with an exact clock and perhaps jobs of the host, and pacers of which nothing has
been asked yet. -/
structure Unasked (c : Commons ι) : Prop where
  pacers : ∀ i, c.pacer i = {}
  clock : c.timer.clock = .exact
  running : c.timer.running = true
  named : Named c.timer.jobs
  jobs : ∀ j ∈ c.timer.jobs, j.task = .host

/-- A session of which nothing has been asked yet, with such a timer to itself. -/
structure Solitary (pace : Pace) (s : Session τ) : Prop
    extends Untouched s, Lone pace s where
  clock : s.timer.clock = .exact
  named : Named s.timer.jobs

theorem agenda_hosts {task? : α → Option Task} {t : Timer α}
    (h : ∀ j ∈ t.jobs, task? j.task = none) : agenda task? t = [] :=
  List.filterMap_eq_nil_iff.mpr fun j hj => by rw [own?, h j hj]; rfl

theorem Unasked.paired (hc : Unasked c) (hs : Solitary (paces x) s)
    (hnow : c.timer.now = s.timer.now) : Paired (paces x) x c s := by
  have hcommon : ∀ j ∈ c.timer.jobs, taskOf x j.task = none := fun j hj => by rw [hc.jobs j hj]; rfl
  have halone : ∀ j ∈ s.timer.jobs, taskOfDuty j.task = none := fun j hj => by
    rw [hs.jobs j hj]; rfl
  have hrunning := hs.shared hs.lent
  refine ⟨hs.toLone, ⟨?_, ?_, hnow, hc.running, hrunning⟩, ?_, ?_⟩
  · rw [hc.pacers, hs.pacer]
  · exact (agenda_hosts hcommon).trans (agenda_hosts halone).symm
  · exact ⟨hc.clock, hc.running, hc.named, fun j hj hdeb => nomatch (hcommon j hj).symm.trans hdeb⟩
  · exact ⟨hs.clock, hrunning, hs.named, fun j hj hdeb => nomatch (halone j hj).symm.trans hdeb⟩

theorem Unasked.hosted (hc : Unasked c) : Hosted c c := by
  have hcommon (i : ι) : Orderly (taskOf i) c.timer :=
    ⟨hc.clock, hc.running, hc.named, fun j hj hdeb => by rw [hc.jobs j hj] at hdeb; cases hdeb⟩
  refine ⟨fun i id hid => ?_, hcommon, hcommon, rfl, fun _ _ => Iff.rfl⟩
  rw [hc.pacers] at hid
  cases hid

theorem Commons.run_snoc (c : Commons ι) (acts : List (Act ι)) (a : Act ι) :
    c.run paces (acts ++ [a]) = (c.run paces acts).act paces a :=
  List.foldl_concat ..

theorem Session.acts_snoc (s : Session τ) (acts : List (Act ι)) (a : Act ι) :
    s.acts x (acts ++ [a]) = (s.acts x acts).act x a :=
  List.foldl_concat ..

/-- Time passes. -/
def Act.passes : Act ι → Bool
  | .deed .. => false
  | .pass _ => true

theorem Hosted.run (x : ι) (acts : List (Act ι)) : ∀ {c c' : Commons ι}, Hosted c c' →
    Hosted (c.run paces acts) (c'.run paces (acts.filter Act.passes)) := by
  induction acts with
  | nil => exact fun h => h
  | cons a r ih =>
      intro c c' h
      cases a with
      | deed i d => exact ih (h.deed i d)
      | pass ms => exact ih (h.pass x ms)

/-- **A pacer that shares its timer does the sweeps it would do alone**, and is in the same state
after each act, as long as no other pacer uses a name under which it has a job waiting; and not
longer. Jobs of the host with names that no pacer gives come and go with the time alone. -/
theorem alike_iff_spared (hc : Unasked c) (hs : Solitary (paces x) s)
    (hnow : c.timer.now = s.timer.now) (acts : List (Act ι)) :
    ((∀ during, during <+: acts → Alike x (c.run paces during) (s.acts x during)) ↔
      ∀ during a, during ++ [a] <+: acts → Spares paces x (c.run paces during) a) ∧
    ∀ j : Job (Errand ι), ¬ Reserved j.id →
      (j ∈ (c.run paces acts).timer.jobs ↔
        j ∈ (c.run paces (acts.filter Act.passes)).timer.jobs) := by
  refine ⟨?_, (hc.hosted.run x acts).same⟩
  refine prefixes_iff (I := fun during =>
    Paired (paces x) x (c.run paces during) (s.acts x during)) acts (hc.paired hs hnow) ?_ ?_
  · exact fun during h => h.alike
  · intro during a _ h
    rw [Commons.run_snoc, Session.acts_snoc]
    exact h.act a

end

/-! ## Two pacers -/

/-- Two pacers on one timer, with the delays that are usual. -/
def neighbours : Commons Bool := ⟨(Timer.idle .exact).start, fun _ => {}⟩

def usualPace (_ : Bool) : Pace := ⟨100, [300, 1000]⟩

theorem unasked_neighbours : Unasked neighbours where
  pacers := fun _ => rfl
  clock := rfl
  running := rfl
  named := List.nodup_nil
  jobs := fun _ h => absurd h List.not_mem_nil

theorem solitary_sharedSession (i : Bool) : Solitary (usualPace i) sharedSession where
  toUntouched := untouched_sharedSession
  lent := rfl
  debounce := rfl
  delays := rfl
  clock := rfl
  named := List.nodup_nil

/-- One waits for its delays, and the other's notice uses none of their names. -/
theorem alike_iff_spared_neighbours :
    Unasked neighbours ∧ Solitary (usualPace false) sharedSession ∧
      neighbours.timer.now = sharedSession.timer.now ∧
      ∀ during, during <+: [.deed false .start, .deed true .notice, .pass 500] →
        Alike false (neighbours.run usualPace during) (sharedSession.acts false during) := by
  refine ⟨unasked_neighbours, solitary_sharedSession false, rfl,
    (alike_iff_spared unasked_neighbours (solitary_sharedSession false) rfl
      [.deed false .start, .deed true .notice, .pass 500]).1.mpr ?_⟩
  have hdelayed : ((neighbours.run usualPace [.deed false .start]).timer.jobs.all
      fun j => j.id != debounceJob) = true := by decide +kernel
  intro during a hp
  match during, hp with
  | [], hp =>
      obtain rfl : a = .deed false .start := by simpa using hp
      exact fun hne => absurd rfl hne
  | [_], hp =>
      obtain ⟨rfl, rfl⟩ : _ = _ ∧ a = .deed true .notice := by simpa using hp
      intro _ j hj _ _ hid
      have hother := List.all_eq_true.mp hdelayed j hj
      exact bne_iff_ne.mp hother (List.mem_singleton.mp hid)
  | [_, _], hp =>
      obtain ⟨_, _, rfl⟩ : _ ∧ _ ∧ a = .pass 500 := by simpa using hp
      trivial
  | _ :: _ :: _ :: _ :: _, hp | [_, _, _], hp =>
      have hlength := hp.length_le
      simp only [List.length_append, List.length_cons, List.length_nil] at hlength
      omega

/-- A notice, a start and a stop each take a sweep that was to come away from the neighbour, who would
have swept if left alone. -/
theorem neighbours_disturb :
    Unasked neighbours ∧ Solitary (usualPace false) sharedSession ∧
      ∀ acts ∈ [[.deed false .notice, .deed true .notice],
          [.deed false .start, .deed true .start],
          [.deed true .notice, .deed false .notice, .deed true .stop]],
        ¬ Alike false (neighbours.run usualPace acts) (sharedSession.acts false acts) ∧
          ((neighbours.run usualPace (acts ++ [.pass 300])).pacer false).counts = [] ∧
          (sharedSession.acts false (acts ++ [.pass 300])).pacer.counts ≠ [] := by
  refine ⟨unasked_neighbours, solitary_sharedSession false, ?_⟩
  have hlost (acts : List (Act Bool))
      (h : (agenda (taskOf false) (neighbours.run usualPace acts).timer).length ≠
        (agenda taskOfDuty (sharedSession.acts false acts).timer).length) :
      ¬ Alike false (neighbours.run usualPace acts) (sharedSession.acts false acts) :=
    fun halike => h (congrArg List.length halike.jobs)
  intro acts hacts
  simp only [List.mem_cons, List.not_mem_nil, or_false] at hacts
  rcases hacts with rfl | rfl | rfl
  all_goals exact ⟨hlost _ (by decide +kernel), by decide +kernel, by decide +kernel⟩

end StickerPages.Live
