import Mathlib.Algebra.Ring.Nat
import StickerPages.Proofs.Arrangements

/-!
# What a stop leaves behind

Right after a stop a session is at rest: nothing is pending, nothing is observed, and no job of its
own is in the timer. What may come after a stop without a start can disturb that in two ways only.

A notice is refused by a timer that is not at work. A session's own timer is shut down by the stop,
but a shared one goes on working, and so a notice is taken as if the session were running. And a stop
takes back one call for the page's readiness; where a session has been started more than once on a
page that was not ready, other calls are still out, and the first of them engages the session anew.

`rests_iff` says that these are all: a stopped session stays at rest exactly as long as neither
happens.
-/

namespace StickerPages.Live

open Markup Layout Timing

variable {τ : Type} {keeps : Bool} {terms : Settings.Layout × Bool} {w : Bool × Nat}
  {s : Session τ} {counts : List (String × Nat)} {sweep : Session τ → Session τ × Bool} {m : Move}

/-! ## Rest -/

/-- Nothing of a session is under way. -/
structure AtRest (s : Session τ) : Prop where
  idle : s.pacer.pending = false
  unwatched : s.watcher.observation = none ∧ ∀ o ∈ s.document.observations, o.who ≠ .keeper
  jobless : ∀ j ∈ s.timer.jobs, j.task = .host

/-- Nothing is under way, nobody listens to navigations, and so many sweeps have been counted. -/
structure Dormant (counts : List (String × Nat)) (s : Session τ) : Prop where
  idle : s.pacer.pending = false
  deaf : s.pacer.listening = false
  counted : s.pacer.counts = counts
  unobserved : s.watcher.observation = none
  jobless : ∀ j ∈ s.timer.jobs, j.task = .host
  off : s.owned = true → s.timer.running = false

theorem unwatched (hk : Kept keeps terms w s) (h : s.watcher.observation = none) : ¬ Watched s := by
  rintro ⟨o, ho, hwho⟩
  have hkey := (hk.keeper o ho hwho).1
  rw [h] at hkey
  cases hkey

theorem Dormant.atRest (h : Dormant counts s) (hk : Kept keeps terms w s) : AtRest s :=
  ⟨h.idle, ⟨h.unobserved, fun o ho hwho => unwatched hk h.unobserved ⟨o, ho, hwho⟩⟩, h.jobless⟩

theorem Dormant.carry {s' : Session τ} (h : Dormant counts s) (same : standing s' = standing s) :
    Dormant counts s' := by
  simp only [standing, Prod.mk.injEq] at same
  obtain ⟨_, h2, h3, h4, h5, _⟩ := same
  exact ⟨h4 ▸ h.idle, h4 ▸ h.deaf, h4 ▸ h.counted, h5 ▸ h.unobserved, h3 ▸ h.jobless,
    h2 ▸ h3 ▸ h.off⟩

/-! ## The stop -/

theorem stopPacing_dormant {ready : Bool} {waits : Nat} (h : Arranged terms ready waits s)
    (hwatcher : s.watcher.observation = none) : Dormant s.pacer.counts s.stopPacing := by
  obtain ⟨hu, hdeaf⟩ := h.unsubscribe
  obtain ⟨hidle, hlistening, hcounts⟩ :=
    pacer_stop s.unsubscribe.owned s.unsubscribe.pacer s.unsubscribe.timer
  have hcounted : s.unsubscribe.pacer.counts = s.pacer.counts := by
    unfold Session.unsubscribe
    split <;> rfl
  refine ⟨hidle, hlistening.trans hdeaf, hcounts.trans hcounted, ?_,
    jobs_stop hu.own hu.asleep, ?_⟩
  · exact (congrArg _ (stopPacing_watcher s)).trans hwatcher
  · intro ho
    refine (running_stop ..).trans ?_
    rw [show s.unsubscribe.owned = true from ho, Bool.not_true, Bool.and_false]

/-- **A stop leaves nothing under way.** -/
theorem Kept.stop_dormant (h : Kept keeps terms w s) (hooks : Hooks τ) :
    Dormant s.pacer.counts (Move.stop.make keeps hooks s) := by
  cases keeps with
  | true => exact stopPacing_dormant h.unlisten_ready.disconnect rfl
  | false => exact stopPacing_dormant h.toArranged (h.bare rfl).2

/-! ## Afterwards -/

/-- A move that leaves a stopped session at rest. -/
structure Undisturbing (owned : Bool) (waits : Nat) (m : Move) : Prop where
  notStart : m ≠ .start
  refused : m = .notice → owned = true
  unheard : m.announces = true → waits = 0

theorem dispatch_hosts {event : String}
    (h : ∀ l ∈ s.document.listenersOf event, ∃ name, l = .host name) :
    (s.dispatch (sweeping sweep) event).1 = s := by
  have hfold (ls : List Listener) (hls : ∀ l ∈ ls, ∃ name, l = Listener.host name) :
      ls.foldl (Session.hear (sweeping sweep) event) s = s := by
    induction ls with
    | nil => rfl
    | cons l r ih =>
        obtain ⟨name, rfl⟩ := hls l List.mem_cons_self
        exact ih fun l hl => hls l (List.mem_cons_of_mem _ hl)
  exact hfold _ h

/-- Only the host hears an event that nobody waits for. -/
theorem Dormant.hosts (h : Dormant counts s) (hk : Kept keeps terms w s) {event : String}
    (hnone : event = Session.readyEvent → w.2 = 0) :
    ∀ l ∈ s.document.listenersOf event, ∃ name, l = .host name := by
  intro l hl
  -- all but the host are counted by the session's arrangements, and none is left
  have hcount : (s.document.listenersOf event).count l ≠ 0 := by
    simpa [List.count_eq_zero] using hl
  cases l with
  | host name => exact ⟨name, rfl⟩
  | navigation =>
      rw [hk.navigation, h.deaf] at hcount
      exact absurd rfl hcount
  | visibility =>
      rw [hk.visibility, h.deaf] at hcount
      simp at hcount
  | ready =>
      rw [hk.waiting] at hcount
      by_cases he : Session.readyEvent = event
      · exact absurd (if_pos he ▸ hnone he.symm) hcount
      · exact absurd (if_neg he) hcount

theorem Dormant.retimed (h : Dormant counts s) {t : Timer Duty}
    (hrunning : t.running = s.timer.running) (hjobs : t.jobs ⊆ s.timer.jobs) :
    Dormant counts { s with timer := t } :=
  ⟨h.idle, h.deaf, h.counted, h.unobserved, fun j hj => h.jobless j (hjobs hj),
    fun ho => hrunning.trans (h.off ho)⟩

theorem Dormant.perform (h : Dormant counts s) {d : Duty} (hd : d = .host) :
    Dormant counts (s.perform (sweeping sweep) d) := by
  rw [hd]
  exact h

theorem Dormant.runDue (h : Dormant counts s) : Dormant counts (s.runDue (sweeping sweep)) :=
  runDue_keeps (P := Dormant counts) (Q := (· = .host)) (fun hr hj h => h.retimed hr hj)
    (fun h => h.jobless) (fun hd h => h.perform hd) h

theorem Dormant.unstirred {s' : Session τ} (h : Dormant counts s) (hk : Kept keeps terms w s)
    (hs : Stirred (Watched s) s s') : Dormant counts s' := by
  rcases hs with hs | ⟨hwatched, _⟩
  · exact h.carry hs
  · exact absurd hwatched (unwatched hk h.unobserved)

/-- **A harmless move leaves a stopped session as it is.** -/
theorem Dormant.make (h : Dormant counts s) (hk : Kept keeps terms w s)
    (hm : Undisturbing s.owned w.2 m) : Dormant counts (m.make keeps (sweeping sweep) s) := by
  cases m with
  | start => exact absurd rfl hm.notStart
  | stop =>
      have hstop := hk.stop_dormant (sweeping sweep)
      rw [h.counted] at hstop
      exact hstop
  | markReady =>
      unfold Move.make Session.markReady
      dsimp only
      split
      · exact h
      · rw [dispatch_hosts (s := { s with document := { s.document with ready := true } })
          (h.hosts hk fun _ => hm.unheard rfl)]
        exact ⟨h.idle, h.deaf, h.counted, h.unobserved, h.jobless, h.off⟩
  | event name =>
      have hsame : (s.dispatch (sweeping sweep) name).1 = s :=
        dispatch_hosts (h.hosts hk fun he => hm.unheard (beq_iff_eq.mpr he))
      rw [Move.make, hsame]
      exact h
  | hide hidden =>
      unfold Move.make Session.setHidden
      dsimp only
      rw [dispatch_hosts (s := { s with document := { s.document with hidden } })
        (h.hosts hk fun he => absurd he (by decide))]
      exact ⟨h.idle, h.deaf, h.counted, h.unobserved, h.jobless, h.off⟩
  | change m => exact h.unstirred hk (stirred_perform m s)
  | batch ms => exact h.unstirred hk (stirred_batch sweep ms s)
  | notice =>
      rw [Move.make, notify_asleep (h.off (hm.refused rfl))]
      exact h
  | pass ms =>
      exact advance_keeps (P := Dormant counts) (Q := (· = .host)) (fun hr hj h => h.retimed hr hj)
        (fun h => h.jobless) (fun hd h => h.perform hd) h ms

/-! ## A notice on a shared timer

The notice leaves a job, and it takes a sweep to get rid of it, if the job is due at once. -/

/-- How many sweeps have been counted. -/
def total (p : Pacer) : Nat := (p.counts.map (·.2)).sum

theorem total_count (p : Pacer) (reason : String) : total (p.count reason) = total p + 1 := by
  have hput (es : List (String × Nat)) :
      ((Pairs.put es reason ((es.lookup reason).getD 0 + 1)).map (·.2)).sum =
        (es.map (·.2)).sum + 1 := by
    induction es with
    | nil => rfl
    | cons e r ih =>
        obtain ⟨k, n⟩ := e
        by_cases hk : k = reason
        · simp [Pairs.put, hk]
          omega
        · have hk' : (reason == k) = false := by simpa using Ne.symm hk
          simp only [Pairs.put, List.lookup_cons, hk', beq_iff_eq, hk, if_false, List.map_cons,
            List.sum_cons, ih]
          omega
  exact hput p.counts

theorem total_congr {p q : Pacer} (h : q.counts = p.counts) : total q = total p := by
  rw [total, h, total]

theorem counts_notify (s : Session τ) : s.notify.pacer.counts = s.pacer.counts := by
  cases hrun : s.timer.running with
  | false => rw [notify_asleep hrun]
  | true =>
      rw [notify_eq hrun]
      exact counts_noting _ _

/-- Something is under way: a sweep more than `n` has been counted, or a job for one waits. -/
def Owing (n : Nat) (s : Session τ) : Prop :=
  n < total s.pacer ∨ n = total s.pacer ∧ ∃ j ∈ s.timer.jobs, j.task ≠ .host

section

variable (hsweep : Tame sweep)

include hsweep

theorem total_sweepNow (reason : String) (s : Session τ) :
    total (s.sweepNow (sweeping sweep) reason).1.pacer = total s.pacer + 1 := by
  rw [← total_count s.pacer reason]
  rcases stirred_sweepNow hsweep reason s with h | ⟨_, h⟩
  · simp only [standing, Prod.mk.injEq] at h
    rw [h.2.2.2.1]
  · simp only [standing, Prod.mk.injEq] at h
    rw [h.2.2.2.1]
    exact total_congr (counts_notify _)

theorem total_perform (task : Task) (s : Session τ) :
    total (s.perform (sweeping sweep) (.sweep task)).pacer = total s.pacer + 1 := by
  cases task with
  | delayed => exact total_sweepNow hsweep "delayed" s
  | debounced =>
      refine (total_sweepNow hsweep "debounce" _).trans ?_
      have hsettle : total (Pacer.settle (s.pacer, s.timer)) = total s.pacer := by
        unfold Pacer.settle
        split <;> rfl
      rw [hsettle]

/-- Jobs that are in hand are the host's, and then nothing happens, or there is a sweep. -/
theorem performAll_cases (ds : List Duty) : ∀ s : Session τ,
    (∀ d ∈ ds, d = .host) ∧ ds.foldl (Session.perform (sweeping sweep)) s = s ∨
      total s.pacer < total (ds.foldl (Session.perform (sweeping sweep)) s).pacer := by
  induction ds with
  | nil => exact fun s => .inl ⟨by simp, rfl⟩
  | cons d r ih =>
      intro s
      cases d with
      | host =>
          rcases ih s with ⟨hall, hsame⟩ | hmore
          · exact .inl ⟨List.forall_mem_cons.mpr ⟨rfl, hall⟩, hsame⟩
          · exact .inr hmore
      | sweep task =>
          right
          -- a sweep counts, and what comes after takes no count back
          have hone := total_perform hsweep task s
          rcases ih (s.perform (sweeping sweep) (.sweep task)) with ⟨_, hsame⟩ | hmore
          · rw [List.foldl_cons, hsame]
            omega
          · rw [List.foldl_cons]
            omega

theorem Owing.runInstant {n : Nat} (h : Owing n s) (instant : Nat) :
    Owing n (s.runInstant (sweeping sweep) instant) := by
  rcases performAll_cases hsweep ((s.timer.takeDue instant).1.map (·.task))
    { s with timer := { (s.timer.takeDue instant).2 with now := instant } } with
    ⟨hhosts, hsame⟩ | hmore
  · rcases h with hlt | ⟨heq, j, hj, htask⟩
    · left
      refine Nat.lt_of_lt_of_eq hlt (congrArg (fun u : Session τ => total u.pacer) hsame).symm
    · -- the job is not one of those taken out
      right
      refine ⟨heq.trans (congrArg (fun u : Session τ => total u.pacer) hsame).symm, j, ?_, htask⟩
      have hleft : j ∈ (s.timer.takeDue instant).2.jobs := by
        refine (Timer.mem_takeDue_left _).mpr ⟨hj, Nat.lt_of_not_le fun hle => htask ?_⟩
        exact hhosts _ (List.mem_map_of_mem ((Timer.mem_takeDue _).mpr ⟨hj, hle⟩))
      exact (congrArg (fun u : Session τ => u.timer.jobs) hsame).symm ▸ hleft
  · left
    refine Nat.lt_of_le_of_lt ?_ hmore
    rcases h with hlt | ⟨heq, _⟩
    · exact Nat.le_of_lt hlt
    · exact Nat.le_of_eq heq

theorem Owing.runRounds {n : Nat} (instant rounds : Nat) : ∀ {s : Session τ}, Owing n s →
    Owing n (s.runRounds (sweeping sweep) rounds instant) := by
  induction rounds with
  | zero => exact fun h => h
  | succ r ih =>
      intro s h
      rw [Session.runRounds]
      split
      · exact ih (h.runInstant hsweep _)
      · exact h

omit hsweep in
theorem Owing.notice (hrunning : s.timer.running = true) : Owing (total s.pacer) s.notify := by
  refine .inr ⟨(total_congr (counts_notify s)).symm, ?_⟩
  rw [notify_eq hrunning]
  exact ⟨_, (Timer.mem_put _).mpr (.inr rfl), by simp⟩

omit hsweep in
theorem Owing.disturbed {n : Nat} (h : Owing n s) (hn : n = (counts.map (·.2)).sum) :
    ¬ (AtRest s ∧ s.pacer.counts = counts) := by
  rintro ⟨hrest, hcounts⟩
  rcases h with hlt | ⟨_, j, hj, htask⟩
  · rw [total, hcounts, hn] at hlt
    exact Nat.lt_irrefl _ hlt
  · exact htask (hrest.jobless j hj)

/-! ## A call for the page -/

/-- Whoever is called for the page connects the watcher, and nobody disconnects it. -/
theorem hearAll_connects (event : String) (ls : List Listener) : ∀ s : Session τ,
    s.watcher.observation.isSome = true ∨ .ready ∈ ls →
      (ls.foldl (Session.hear (sweeping sweep) event) s).watcher.observation.isSome = true := by
  have hswept (reason : String) (s : Session τ) :
      (s.sweepNow (sweeping sweep) reason).1.watcher = s.watcher :=
    congrArg (·.1) (lookout_sweepNow hsweep reason s)
  induction ls with
  | nil =>
      intro s h
      rcases h with h | h
      · exact h
      · cases h
  | cons l r ih =>
      intro s h
      refine ih _ ?_
      by_cases hl : l = .ready
      · rw [hl]
        exact .inl rfl
      · refine (h.imp_left fun hsome => ?_).imp_right (List.mem_of_ne_of_mem (Ne.symm hl))
        rcases hear_cases sweep event s hl with hsame | hcalled
        · rwa [hsame]
        · rwa [hcalled, hswept]

theorem dispatch_connects {event : String} (h : .ready ∈ s.document.listenersOf event) :
    (s.dispatch (sweeping sweep) event).1.watcher.observation.isSome = true :=
  hearAll_connects hsweep event _ s (.inr h)

/-- **Any other move disturbs the rest.** -/
theorem Dormant.disturbed (h : Dormant counts s) (hk : Kept keeps terms w s) (hstart : m ≠ .start)
    (hm : ¬ Undisturbing s.owned w.2 m) :
    ¬ (AtRest ((m.make keeps (sweeping sweep) s).runDue (sweeping sweep)) ∧
      ((m.make keeps (sweeping sweep) s).runDue (sweeping sweep)).pacer.counts = counts) := by
  by_cases hnotice : m = .notice ∧ s.owned = false
  · obtain ⟨rfl, hshared⟩ := hnotice
    have howing := (Owing.notice (hk.shared hshared)).runRounds hsweep
      s.notify.timer.now (s.notify.timer.jobs.length + 2)
    refine howing.disturbed ?_
    rw [total, h.counted]
  · -- what is left is a call for the page on which a start is waiting
    have hcalled : m.announces = true ∧ w.2 ≠ 0 := by
      by_contra hnot
      refine hm ⟨hstart, fun hm => ?_, fun ha => ?_⟩
      · by_contra ho
        exact hnotice ⟨hm, Bool.eq_false_iff.mpr ho⟩
      · by_contra hw
        exact hnot ⟨ha, hw⟩
    obtain ⟨hannounces, hwaits⟩ := hcalled
    have hready : .ready ∈ s.document.listenersOf Session.readyEvent := by
      refine List.count_pos_iff.mp ?_
      rw [hk.waiting, if_pos rfl]
      exact Nat.pos_of_ne_zero hwaits
    have hsome : (m.make keeps (sweeping sweep) s).watcher.observation.isSome = true := by
      cases m with
      | markReady =>
          have hloading : s.document.ready = false := by
            rw [hk.ready]
            exact Bool.eq_false_iff.mpr fun hr => hwaits (hk.spent hr)
          unfold Move.make Session.markReady
          dsimp only
          rw [if_neg (Bool.eq_false_iff.mp hloading)]
          exact dispatch_connects hsweep hready
      | event name =>
          have hname : name = Session.readyEvent := beq_iff_eq.mp hannounces
          rw [hname]
          exact dispatch_connects hsweep hready
      | start | stop | hide _ | change _ | batch _ | notice | pass _ => cases hannounces
    rintro ⟨hrest, _⟩
    have hkept := congrArg (·.1.observation)
      (lookout_runDue hsweep (m.make keeps (sweeping sweep) s))
    have hnone : (m.make keeps (sweeping sweep) s).watcher.observation = none :=
      hkept.symm.trans hrest.unwatched.1
    rw [hnone] at hsome
    cases hsome

/-! ## Stopped runs -/

omit hsweep in
/-- How many starts wait for the page after some moves: calls for its readiness that are still out. -/
def startsWaiting (keeps : Bool) (s : Session τ) (ms : List Move) : Nat :=
  (ms.foldl (fun w m => m.waitsAfter (keeps && s.delays.2) w) (s.document.ready, 0)).2

omit hsweep in
theorem run_snoc (hooks : Hooks τ) (ms : List Move) (m : Move) :
    run keeps hooks s (ms ++ [m]) = (m.make keeps hooks (run keeps hooks s ms)).runDue hooks := by
  rw [run_append]
  rfl

theorem dormant_stop (hs : Untouched s) (before : List Move) :
    Dormant (run keeps (sweeping sweep) s (before ++ [.stop])).pacer.counts
      (run keeps (sweeping sweep) s (before ++ [.stop])) := by
  have hkept := (hs.kept keeps).run hsweep before
  have hstop : Dormant _ ((Move.stop.make keeps (sweeping sweep) _).runDue (sweeping sweep)) :=
    (hkept.stop_dormant (sweeping sweep)).runDue
  rw [run_snoc, hstop.counted]
  exact hstop

/-- From a dormant session one more move leads to another one, or it disturbs. -/
theorem dormant_snoc (hs : Untouched s) {ms : List Move} (hm : m ≠ .start)
    (h : Dormant counts (run keeps (sweeping sweep) s ms)) :
    (Undisturbing s.owned (startsWaiting keeps s ms) m →
        Dormant counts (run keeps (sweeping sweep) s (ms ++ [m]))) ∧
      (AtRest (run keeps (sweeping sweep) s (ms ++ [m])) ∧
          (run keeps (sweeping sweep) s (ms ++ [m])).pacer.counts = counts →
        Undisturbing s.owned (startsWaiting keeps s ms) m) := by
  have hkept := (hs.kept keeps).run hsweep ms
  have howned : (run keeps (sweeping sweep) s ms).owned = s.owned := congrArg (·.2) hkept.under
  rw [run_snoc]
  refine ⟨fun hu => (h.make hkept (howned ▸ hu)).runDue, fun hrest => ?_⟩
  by_contra hu
  exact h.disturbed hsweep hkept hm (howned ▸ hu) hrest

/-- **A stopped session stays at rest** as long as no notice comes on a shared timer and no start that
the stop did not take back is called for the page; and not longer. -/
theorem rests_iff (hs : Untouched s) (before after : List Move) (hstart : .start ∉ after) :
    (∀ during, during <+: after →
      AtRest (run keeps (sweeping sweep) s (before ++ [.stop] ++ during)) ∧
        (run keeps (sweeping sweep) s (before ++ [.stop] ++ during)).pacer.counts =
          (run keeps (sweeping sweep) s (before ++ [.stop])).pacer.counts) ↔
      ∀ during m, during ++ [m] <+: after →
        (m = .notice → s.owned = true) ∧
          (m.announces = true → startsWaiting keeps s (before ++ [.stop] ++ during) = 0) := by
  refine prefixes_iff (I := fun during =>
    Dormant (run keeps (sweeping sweep) s (before ++ [.stop])).pacer.counts
      (run keeps (sweeping sweep) s (before ++ [.stop] ++ during))) after ?_ ?_ ?_
  · rw [List.append_nil]
    exact dormant_stop hsweep hs before
  · exact fun during h => ⟨h.atRest ((hs.kept keeps).run hsweep _), h.counted⟩
  · intro during m hp h
    have hm : m ≠ .start := by
      rintro rfl
      exact hstart (hp.subset (by simp))
    obtain ⟨hstays, hundisturbed⟩ := dormant_snoc hsweep hs hm h
    rw [← List.append_assoc]
    refine ⟨fun hrest => ?_, fun hallowed => hstays ⟨hm, hallowed.1, hallowed.2⟩⟩
    exact ⟨(hundisturbed hrest).refused, (hundisturbed hrest).unheard⟩

end

/-- A page that is still being read, and a session with a timer of its own. -/
def loadingSession : Session Unit :=
  { wordSession with document := { wordSession.document with ready := false } }

theorem untouched_loadingSession : Untouched loadingSession where
  pacer := rfl
  unobserved := rfl
  observers := fun _ h => absurd h List.not_mem_nil
  listeners := fun _ _ h => absurd h List.not_mem_nil
  jobs := fun _ h => absurd h List.not_mem_nil
  owned := fun _ => ⟨rfl, rfl⟩
  shared := fun h => absurd h (by decide)

/-- Started once and stopped, a session does not mind that the page is ready at last. -/
theorem rests_iff_loadingSession :
    Tame (unmoved : Session Unit → _) ∧ Untouched loadingSession ∧
      .start ∉ [Move.markReady] ∧
      ∀ during, during <+: [.markReady] →
        AtRest (run true (sweeping unmoved) loadingSession
            ([.start] ++ [.stop] ++ during)) ∧
          (run true (sweeping unmoved) loadingSession
              ([.start] ++ [.stop] ++ during)).pacer.counts =
            (run true (sweeping unmoved) loadingSession
              ([.start] ++ [.stop])).pacer.counts := by
  have hstart : .start ∉ [Move.markReady] := by simp
  refine ⟨tame_unmoved, untouched_loadingSession, hstart,
    (rests_iff tame_unmoved untouched_loadingSession [.start] [.markReady] hstart).mpr ?_⟩
  intro during m hp
  cases during with
  | nil =>
      obtain rfl : m = .markReady := by simpa using hp
      exact ⟨fun h => absurd h (by simp), fun _ => by decide +kernel⟩
  | cons a r =>
      have hlength := hp.length_le
      simp at hlength

/-- A pacer on a shared timer takes a notice after its stop; and of two starts that waited for the
page, the stop takes back one. -/
theorem stop_not_final :
    (Untouched sharedSession ∧
      ¬ AtRest (run false Hooks.idle sharedSession [.start, .stop, .notice])) ∧
    (Untouched loadingSession ∧
      ¬ AtRest (run true Hooks.idle loadingSession [.start, .start, .stop, .markReady])) := by
  have hpending :
      (run false Hooks.idle sharedSession [.start, .stop, .notice]).pacer.pending = true := by
    decide +kernel
  have hwatched : (run true Hooks.idle loadingSession
      [.start, .start, .stop, .markReady]).watcher.observation.isSome = true := by
    decide +kernel
  refine ⟨⟨untouched_sharedSession, fun h => ?_⟩, untouched_loadingSession, fun h => ?_⟩
  · rw [h.idle] at hpending
    cases hpending
  · rw [h.unwatched.1] at hwatched
    cases hwatched

end StickerPages.Live
