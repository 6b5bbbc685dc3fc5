import StickerPages.Proofs.Moves

/-!
# What a session has arranged

A session leaves things with others: jobs in a timer that may be shared, listeners of events, an
observation of nodes. `Arranged` says that it has left no more than it knows of. The names of its jobs
are among those that the pacer made; it listens to navigations and to the page's coming into view if
and only if the pacer says so, once for each name of an event; the only observation is the watcher's
own. How often it waits for the page to be ready is not written down anywhere, so it is counted here:
`waits` goes up with each start on a page that is not ready, down with a stop, and to nothing when the
page is ready.
-/

namespace StickerPages.Live

open Markup Layout Timing

/-! ## Counting listeners -/

namespace Document

variable {ℓ ω : Type} [DecidableEq ℓ] (d : Document ℓ ω) (e e' : String) (l l' : ℓ)

omit [DecidableEq ℓ] in
theorem listenersOf_listen :
    (d.listen e l).listenersOf e' =
      if e = e' then d.listenersOf e' ++ [l] else d.listenersOf e' := by
  unfold listen listenersOf
  split
  · rename_i h
    rw [h, Pairs.lookup_put_self, Option.getD_some]
  · rename_i h
    rw [Pairs.lookup_put_other _ _ (Ne.symm h)]

theorem count_listen :
    ((d.listen e l).listenersOf e').count l' =
      (d.listenersOf e').count l' + if e = e' ∧ l = l' then 1 else 0 := by
  rw [listenersOf_listen]
  by_cases h : e = e'
  · simp [h, List.count_append, List.count_singleton]
  · simp [h]

theorem count_unlisten :
    ((d.unlisten e l).listenersOf e').count l' =
      (d.listenersOf e').count l' - if e = e' ∧ l = l' then 1 else 0 := by
  unfold unlisten
  by_cases h : e = e'
  · have herase : Document.listenersOf { d with
        listeners := Pairs.put d.listeners e ((d.listenersOf e).erase l) } e' =
        (d.listenersOf e').erase l := by
      rw [listenersOf, h, Pairs.lookup_put_self, Option.getD_some]
    rw [herase, List.count_erase]
    simp [h]
  · have hsame : Document.listenersOf { d with
        listeners := Pairs.put d.listeners e ((d.listenersOf e).erase l) } e' =
        d.listenersOf e' := by
      rw [listenersOf, Pairs.lookup_put_other _ _ (Ne.symm h), listenersOf]
    simp [hsame, h]

theorem count_listenAll (es : List String) : ∀ d : Document ℓ ω,
    ((es.foldl (fun d e => d.listen e l) d).listenersOf e').count l' =
      (d.listenersOf e').count l' + if l = l' then es.count e' else 0 := by
  induction es with
  | nil => simp
  | cons e r ih =>
      intro d
      rw [List.foldl_cons, ih, count_listen, List.count_cons]
      by_cases hl : l = l' <;> by_cases he : e = e' <;> simp [hl, he]
      omega

theorem count_unlistenAll (es : List String) : ∀ d : Document ℓ ω,
    ((es.foldl (fun d e => d.unlisten e l) d).listenersOf e').count l' =
      (d.listenersOf e').count l' - if l = l' then es.count e' else 0 := by
  induction es with
  | nil => simp
  | cons e r ih =>
      intro d
      rw [List.foldl_cons, ih, count_unlisten, List.count_cons]
      by_cases hl : l = l' <;> by_cases he : e = e' <;> simp [hl, he]
      omega

end Document

variable {τ : Type} {terms : Settings.Layout × Bool} {ready : Bool} {waits : Nat} {s s' : Session τ}

/-! ## The invariant -/

/-- A session and what it has left with others. -/
structure Arranged (terms : Settings.Layout × Bool) (ready : Bool) (waits : Nat) (s : Session τ) :
    Prop where
  under : (s.settings, s.owned) = terms
  ready : s.document.ready = ready
  own : ∀ j ∈ s.timer.jobs, j.task ≠ .host → j.id ∈ s.pacer.made
  shared : s.owned = false → s.timer.running = true
  asleep : s.timer.running = false → s.timer.jobs = []
  navigation : ∀ e, (s.document.listenersOf e).count .navigation =
    if s.pacer.listening then s.navigations.count e else 0
  visibility : ∀ e, (s.document.listenersOf e).count .visibility =
    if s.pacer.listening ∧ Session.visibilityEvent = e then 1 else 0
  waiting : ∀ e, (s.document.listenersOf e).count .ready =
    if Session.readyEvent = e then waits else 0
  keeper : ∀ o ∈ s.document.observations, o.who = .keeper →
    s.watcher.observation = some o.key ∧ o.roots = s.watcher.roots

/-! ## The parts of a session

What a pacer makes of its jobs and names, and the rest of what starting and stopping does. -/

theorem listening_noting (p : Pacer) (id : String) : (p.noting id).listening = p.listening := by
  unfold Pacer.noting
  split <;> rfl

theorem made_noting (p : Pacer) (id : String) {other : String} (h : other ∈ p.made) :
    other ∈ (p.noting id).made := by
  unfold Pacer.noting
  split
  · exact h
  · exact List.mem_append_left _ h

/-- A job that is put is noted. -/
theorem own_put {p : Pacer} {t : Timer Duty} {id : String} {delay : Nat} {task : Duty}
    (h : ∀ j ∈ t.jobs, j.task ≠ .host → j.id ∈ p.made) :
    ∀ j ∈ (t.put id delay task).jobs, j.task ≠ .host → j.id ∈ (p.noting id).made := by
  intro j hj htask
  rcases (t.mem_put).mp hj with ⟨hj, _⟩ | rfl
  · exact made_noting p id (h j hj htask)
  · exact List.contains_iff_mem.mp (contains_noting p id)

theorem own_start (delays : List Nat) : ∀ {p : Pacer} {t : Timer Duty},
    (∀ j ∈ t.jobs, j.task ≠ .host → j.id ∈ p.made) →
      ∀ j ∈ (Pacer.start delays Duty.sweep (p, t)).2.jobs, j.task ≠ .host →
        j.id ∈ (Pacer.start delays Duty.sweep (p, t)).1.made := by
  intro p t h
  exact List.foldlRecOn (motive := fun x : Pacer × Timer Duty =>
    ∀ j ∈ x.2.jobs, j.task ≠ .host → j.id ∈ x.1.made) delays (Pacer.delay Duty.sweep) h
    fun _ hown _ _ => own_put hown

theorem listening_start (delays : List Nat) (p : Pacer) (t : Timer Duty) :
    (Pacer.start delays Duty.sweep (p, t)).1.listening = p.listening := by
  exact List.foldlRecOn (motive := fun x : Pacer × Timer Duty => x.1.listening = p.listening)
    delays (Pacer.delay Duty.sweep) rfl fun _ hsame _ _ => (listening_noting _ _).trans hsame

/-- What is left in a timer when its pacer stops is nobody's but the host's. -/
theorem jobs_stop {owned : Bool} {p : Pacer} {t : Timer Duty}
    (hown : ∀ j ∈ t.jobs, j.task ≠ .host → j.id ∈ p.made)
    (hasleep : t.running = false → t.jobs = []) :
    ∀ j ∈ (Pacer.stop owned (p, t)).2.jobs, j.task = .host := by
  intro j hj
  unfold Pacer.stop at hj
  cases hrun : t.running with
  | false =>
      simp [hrun, hasleep hrun] at hj
  | true =>
      rw [hrun] at hj
      cases owned with
      | true => simp [Timer.shutDown] at hj
      | false =>
          obtain ⟨hj, hmade⟩ := (t.mem_dropAll).mp hj
          by_contra htask
          exact hmade (hown j hj htask)

theorem running_stop (owned : Bool) (p : Pacer) (t : Timer Duty) :
    (Pacer.stop owned (p, t)).2.running = (t.running && !owned) := by
  unfold Pacer.stop
  cases hrun : t.running <;> cases owned <;> simp [hrun, Timer.shutDown, Timer.dropAll_eq]

theorem asleep_stop {owned : Bool} {p : Pacer} {t : Timer Duty}
    (hasleep : t.running = false → t.jobs = [])
    (h : (Pacer.stop owned (p, t)).2.running = false) : (Pacer.stop owned (p, t)).2.jobs = [] := by
  rw [running_stop] at h
  unfold Pacer.stop
  cases hrun : t.running with
  | false => simpa using hasleep hrun
  | true =>
      rw [hrun] at h
      cases owned with
      | true => rfl
      | false => cases h

theorem pacer_stop (owned : Bool) (p : Pacer) (t : Timer Duty) :
    (Pacer.stop owned (p, t)).1.pending = false ∧
      (Pacer.stop owned (p, t)).1.listening = p.listening ∧
      (Pacer.stop owned (p, t)).1.counts = p.counts := by
  unfold Pacer.stop
  split <;> exact ⟨rfl, rfl, rfl⟩

theorem foldl_unlisten {ℓ ω : Type} [BEq ℓ] (l : ℓ) (es : List String) : ∀ d : Document ℓ ω,
    ∃ ls, es.foldl (fun d e => d.unlisten e l) d = { d with listeners := ls } := by
  induction es with
  | nil => exact fun d => ⟨d.listeners, rfl⟩
  | cons e r ih =>
      intro d
      obtain ⟨ls, h⟩ := ih (d.unlisten e l)
      exact ⟨ls, h⟩

theorem startPacing_snd (s : Session τ) : s.startPacing.2 = s.delays.2 := by
  unfold Session.startPacing
  dsimp only
  split
  · rename_i hsound
    exact hsound.symm
  · rename_i hnot
    exact (Bool.eq_false_iff.mpr hnot).symm

/-- Listening leaves the timer as the pacer's start has left it. -/
theorem timer_startPacing (s : Session τ) : s.startPacing.1.timer =
    (Pacer.start s.delays.1 Duty.sweep (s.pacer, s.timer)).2 := by
  unfold Session.startPacing
  dsimp only
  split
  · obtain ⟨ls, listening, hsub⟩ := subscribe_eq { s with
      pacer := (Pacer.start s.delays.1 Duty.sweep (s.pacer, s.timer)).1
      timer := (Pacer.start s.delays.1 Duty.sweep (s.pacer, s.timer)).2 }
    rw [hsub]
    rfl
  · rfl

theorem running_startPacing (s : Session τ) : s.startPacing.1.timer.running = true := by
  rw [timer_startPacing]
  exact (pacer_start s.delays.1 s.pacer s.timer).2.1

theorem start_eq (hooks : Hooks τ) (s : Session τ) :
    (s.start hooks).1 =
      if s.delays.2 then
        if s.startPacing.1.document.ready then s.startPacing.1.engage hooks
        else { s.startPacing.1 with
          document := s.startPacing.1.document.listen Session.readyEvent .ready }
      else s.startPacing.1 := by
  rw [← startPacing_snd, Session.start]
  cases s.startPacing with
  | mk u ok => cases ok <;> rfl

theorem document_disconnect (s : Session τ) :
    s.disconnect.document.ready = s.document.ready ∧
      s.disconnect.document.listeners = s.document.listeners := by
  unfold Session.disconnect Watcher.disconnect
  cases s.watcher.observation <;> exact ⟨rfl, rfl⟩

theorem navigations_congr (h : s'.settings = s.settings) : s'.navigations = s.navigations := by
  rw [Session.navigations, h, Session.navigations]

theorem listenersOf_congr {ℓ ω : Type} {d d' : Document ℓ ω} (h : d'.listeners = d.listeners)
    (e : String) : d'.listenersOf e = d.listenersOf e := by
  rw [Document.listenersOf, h, Document.listenersOf]

namespace Arranged

theorem carry (h : Arranged terms ready waits s) (same : standing s' = standing s) :
    Arranged terms ready waits s' := by
  simp only [standing, Prod.mk.injEq] at same
  obtain ⟨h1, h2, h3, h4, h5, h6, h7, h8⟩ := same
  refine ⟨(congrArg₂ Prod.mk h1 h2).trans h.under, h6.trans h.ready, ?_, ?_, ?_, ?_, ?_, ?_, ?_⟩
  · rw [h3, h4]
    exact h.own
  · rw [h2, h3]
    exact h.shared
  · rw [h3]
    exact h.asleep
  · intro e
    rw [listenersOf_congr h7, h4, navigations_congr h1]
    exact h.navigation e
  · intro e
    rw [listenersOf_congr h7, h4]
    exact h.visibility e
  · intro e
    rw [listenersOf_congr h7]
    exact h.waiting e
  · rw [h5, h8]
    exact h.keeper

/-! ## Notices, sweeps and jobs -/

theorem notify (h : Arranged terms ready waits s) : Arranged terms ready waits s.notify := by
  cases hrun : s.timer.running with
  | false =>
      rw [notify_asleep hrun]
      exact h
  | true =>
      rw [notify_eq hrun]
      refine ⟨h.under, h.ready, own_put h.own, fun _ => hrun, ?_, ?_, ?_, h.waiting, h.keeper⟩
      · intro hasleep
        exact absurd (hrun.symm.trans hasleep) (by decide)
      · intro e
        rw [listening_noting]
        exact h.navigation e
      · intro e
        rw [listening_noting]
        exact h.visibility e

theorem stirred {may : Prop} (h : Arranged terms ready waits s) (hs : Stirred may s s') :
    Arranged terms ready waits s' := by
  rcases hs with hs | ⟨_, hs⟩
  · exact h.carry hs
  · exact h.notify.carry hs

section

variable {sweep : Session τ → Session τ × Bool} (hsweep : Tame sweep)

include hsweep

theorem sweepNow (h : Arranged terms ready waits s) (reason : String) :
    Arranged terms ready waits (s.sweepNow (sweeping sweep) reason).1 := by
  have hcounted : Arranged terms ready waits { s with pacer := s.pacer.count reason } :=
    ⟨h.under, h.ready, h.own, h.shared, h.asleep, h.navigation, h.visibility, h.waiting, h.keeper⟩
  exact hcounted.stirred (stirred_sweepNow hsweep reason s)

theorem perform (h : Arranged terms ready waits s) (d : Duty) :
    Arranged terms ready waits (s.perform (sweeping sweep) d) := by
  cases d with
  | host => exact h
  | sweep task =>
      cases task with
      | delayed => exact h.sweepNow hsweep "delayed"
      | debounced =>
          have hsettled : Arranged terms ready waits
              { s with pacer := Pacer.settle (s.pacer, s.timer) } := by
            unfold Pacer.settle
            split
            · exact h
            · exact ⟨h.under, h.ready, h.own, h.shared, h.asleep, h.navigation, h.visibility,
                h.waiting, h.keeper⟩
          exact hsettled.sweepNow hsweep "debounce"

omit hsweep in
/-- Taking jobs out leaves no job that is not known. -/
theorem retimed (h : Arranged terms ready waits s) {t : Timer Duty}
    (hrunning : t.running = s.timer.running) (hjobs : t.jobs ⊆ s.timer.jobs) :
    Arranged terms ready waits { s with timer := t } := by
  refine ⟨h.under, h.ready, fun j hj => h.own j (hjobs hj), fun ho => hrunning.trans (h.shared ho),
    fun hasleep => ?_, h.navigation, h.visibility, h.waiting, h.keeper⟩
  rw [h.asleep (hrunning.symm.trans hasleep)] at hjobs
  exact List.eq_nil_of_subset_nil hjobs

theorem runRounds (h : Arranged terms ready waits s) (rounds instant : Nat) :
    Arranged terms ready waits (s.runRounds (sweeping sweep) rounds instant) :=
  runRounds_keeps (P := Arranged terms ready waits) (Q := fun _ => True)
    (fun hrunning hjobs h => h.retimed hrunning hjobs) (fun _ _ _ => trivial)
    (fun _ h => h.perform hsweep _) instant rounds h

/-! ## Connecting and hearing -/

omit hsweep in
/-- The watcher gives up the one observation it has. -/
theorem unobserved_disconnect (h : Arranged terms ready waits s) :
    ∀ o ∈ s.disconnect.document.observations, o.who ≠ .keeper := by
  intro o ho hwho
  unfold Session.disconnect Watcher.disconnect at ho
  cases hobs : s.watcher.observation with
  | none =>
      simp only [hobs] at ho
      have hkey := (h.keeper o ho hwho).1
      rw [hobs] at hkey
      cases hkey
  | some key =>
      simp only [hobs, Document.disconnect, List.mem_filter, bne_iff_ne, ne_eq] at ho
      have hkey := (h.keeper o ho.1 hwho).1
      rw [hobs, Option.some.injEq] at hkey
      exact ho.2 hkey.symm

omit hsweep in
theorem relooked (h : Arranged terms ready waits s) {w : Watcher} {d : Document Listener Observer}
    (hready : d.ready = s.document.ready) (hlisteners : d.listeners = s.document.listeners)
    (hkeeper : ∀ o ∈ d.observations, o.who = .keeper →
      w.observation = some o.key ∧ o.roots = w.roots) :
    Arranged terms ready waits { s with watcher := w, document := d } := by
  refine ⟨h.under, hready.trans h.ready, h.own, h.shared, h.asleep, ?_, ?_, ?_, hkeeper⟩
  · intro e
    rw [listenersOf_congr hlisteners]
    exact h.navigation e
  · intro e
    rw [listenersOf_congr hlisteners]
    exact h.visibility e
  · intro e
    rw [listenersOf_congr hlisteners]
    exact h.waiting e

omit hsweep in
/-- The watcher gives up the observation that it has before it makes another. -/
theorem connect (h : Arranged terms ready waits s) :
    Arranged terms ready waits s.connect := by
  obtain ⟨hready, hlisteners⟩ := document_disconnect s
  refine (h.relooked (d := (s.watcher.connect .keeper s.document).2.1)
    (w := (s.watcher.connect .keeper s.document).1) hready hlisteners ?_).carry rfl
  intro o ho hwho
  rcases List.mem_append.mp ho with ho | ho
  · exact absurd hwho (h.unobserved_disconnect o ho)
  · rw [List.mem_singleton.mp ho]
    exact ⟨rfl, rfl⟩

theorem engage (h : Arranged terms ready waits s) :
    Arranged terms ready waits (s.engage (sweeping sweep)) :=
  (h.sweepNow hsweep "load").connect.carry rfl

omit hsweep in
theorem unlisten_ready (h : Arranged terms ready waits s) :
    Arranged terms ready (waits - 1)
      { s with document := s.document.unlisten Session.readyEvent .ready } := by
  refine ⟨h.under, h.ready, h.own, h.shared, h.asleep, ?_, ?_, ?_, h.keeper⟩
  · intro e
    rw [Document.count_unlisten, h.navigation]
    simp [Session.navigations]
  · intro e
    rw [Document.count_unlisten, h.visibility]
    simp
  · intro e
    rw [Document.count_unlisten, h.waiting]
    by_cases he : Session.readyEvent = e <;> simp [he]

/-- Of those who hear an event, one that waited for the page waits no more. -/
theorem hear (l : Listener) (event : String)
    (h : Arranged terms ready (waits + [l].count .ready) s) :
    Arranged terms ready waits (s.hear (sweeping sweep) event l) := by
  by_cases hl : l = .ready
  · rw [hl] at h ⊢
    exact h.unlisten_ready.engage hsweep
  · rw [List.count_singleton, if_neg (by simpa using hl), Nat.add_zero] at h
    rcases hear_cases sweep event s hl with hsame | hswept
    · rwa [hsame]
    · rw [hswept]
      exact h.sweepNow hsweep event

theorem hearAll (event : String) (ls : List Listener) : ∀ {s : Session τ},
    Arranged terms ready (waits + ls.count .ready) s →
      Arranged terms ready waits (ls.foldl (Session.hear (sweeping sweep) event) s) := by
  induction ls with
  | nil => exact fun h => h
  | cons l r ih =>
      intro s h
      -- one of those who wait is called now, or none is
      refine ih (hear hsweep l event ?_)
      rw [List.count_cons, ← Nat.add_assoc] at h
      rwa [List.count_singleton]

/-- **Everyone who waited for the page hears of it once.** -/
theorem dispatch (h : Arranged terms ready waits s) (event : String) :
    Arranged terms ready (if event = Session.readyEvent then 0 else waits)
      (s.dispatch (sweeping sweep) event).1 := by
  refine hearAll hsweep event _ ?_
  rw [h.waiting]
  by_cases he : event = Session.readyEvent
  · simpa [he] using h
  · rw [if_neg he, if_neg (Ne.symm he)]
    exact h

end

/-! ## Starting and stopping -/

theorem subscribe (h : Arranged terms ready waits s) :
    Arranged terms ready waits s.subscribe := by
  unfold Session.subscribe
  split
  · exact h
  · rename_i hnot
    obtain ⟨ls, hls⟩ := foldl_listen Listener.navigation s.navigations s.document
    have hready : (s.navigations.foldl (fun d e => d.listen e .navigation) s.document).ready =
        s.document.ready := by rw [hls]
    have hkeeper : (s.navigations.foldl (fun d e => d.listen e .navigation)
        s.document).observations = s.document.observations := by rw [hls]
    refine ⟨h.under, hready.trans h.ready, h.own, h.shared, h.asleep, ?_, ?_, ?_, ?_⟩
    · intro e
      rw [Document.count_listen, Document.count_listenAll, h.navigation]
      simp [hnot, Session.navigations]
    · intro e
      rw [Document.count_listen, Document.count_listenAll, h.visibility]
      simp [hnot]
    · intro e
      rw [Document.count_listen, Document.count_listenAll, h.waiting]
      simp
    · exact fun o ho => h.keeper o (hkeeper ▸ ho)

theorem startPacing (h : Arranged terms ready waits s) :
    Arranged terms ready waits s.startPacing.1 := by
  obtain ⟨_, hrunning, _⟩ := pacer_start s.delays.1 s.pacer s.timer
  have hstarted : Arranged terms ready waits { s with
      pacer := (Pacer.start s.delays.1 Duty.sweep (s.pacer, s.timer)).1
      timer := (Pacer.start s.delays.1 Duty.sweep (s.pacer, s.timer)).2 } := by
    refine ⟨h.under, h.ready, own_start _ h.own, fun _ => hrunning, ?_, ?_, ?_, h.waiting,
      h.keeper⟩
    · intro hasleep
      exact absurd (hrunning.symm.trans hasleep) (by decide)
    · intro e
      rw [listening_start]
      exact h.navigation e
    · intro e
      rw [listening_start]
      exact h.visibility e
  unfold Session.startPacing
  dsimp only
  split
  · exact hstarted.subscribe.carry rfl
  · exact hstarted

theorem listen_ready (h : Arranged terms ready waits s) :
    Arranged terms ready (waits + 1)
      { s with document := s.document.listen Session.readyEvent .ready } := by
  refine ⟨h.under, h.ready, h.own, h.shared, h.asleep, ?_, ?_, ?_, h.keeper⟩
  · intro e
    rw [Document.count_listen, h.navigation]
    simp [Session.navigations]
  · intro e
    rw [Document.count_listen, h.visibility]
    simp
  · intro e
    rw [Document.count_listen, h.waiting]
    by_cases he : Session.readyEvent = e <;> simp [he]

theorem start {sweep : Session τ → Session τ × Bool} (hsweep : Tame sweep)
    (h : Arranged terms ready waits s) :
    Arranged terms ready (if s.delays.2 && !ready then waits + 1 else waits)
      (s.start (sweeping sweep)).1 := by
  have hpaced := h.startPacing
  rw [start_eq, hpaced.ready]
  cases s.delays.2 with
  | false => exact hpaced
  | true =>
      cases ready with
      | true => exact hpaced.engage hsweep
      | false => exact hpaced.listen_ready

/-! A pacer that stops leaves nothing in the timer and nobody who listens, a watcher that is
disconnected leaves no observation. -/

theorem unsubscribe (h : Arranged terms ready waits s) :
    Arranged terms ready waits s.unsubscribe ∧ s.unsubscribe.pacer.listening = false := by
  unfold Session.unsubscribe
  split
  · rename_i hlistening
    obtain ⟨ls, hls⟩ := foldl_unlisten Listener.navigation s.navigations s.document
    have hready : (s.navigations.foldl (fun d e => d.unlisten e .navigation) s.document).ready =
        s.document.ready := by rw [hls]
    have hkeeper : (s.navigations.foldl (fun d e => d.unlisten e .navigation)
        s.document).observations = s.document.observations := by rw [hls]
    refine ⟨⟨h.under, hready.trans h.ready, h.own, h.shared, h.asleep, ?_, ?_, ?_, ?_⟩, rfl⟩
    · intro e
      rw [Document.count_unlisten, Document.count_unlistenAll, h.navigation]
      simp [hlistening]
    · intro e
      rw [Document.count_unlisten, Document.count_unlistenAll, h.visibility]
      by_cases he : Session.visibilityEvent = e <;> simp [hlistening, he]
    · intro e
      rw [Document.count_unlisten, Document.count_unlistenAll, h.waiting]
      simp
    · exact fun o ho => h.keeper o (hkeeper ▸ ho)
  · rename_i hnot
    exact ⟨h, Bool.eq_false_iff.mpr hnot⟩

theorem stopPacing (h : Arranged terms ready waits s) :
    Arranged terms ready waits s.stopPacing := by
  obtain ⟨hu, _⟩ := h.unsubscribe
  obtain ⟨_, hlistening, _⟩ :=
    pacer_stop s.unsubscribe.owned s.unsubscribe.pacer s.unsubscribe.timer
  refine ⟨hu.under, hu.ready, ?_, ?_, ?_, ?_, ?_, hu.waiting, hu.keeper⟩
  · intro j hj htask
    exact absurd (jobs_stop hu.own hu.asleep j hj) htask
  · intro ho
    have ho : s.unsubscribe.owned = false := ho
    refine (running_stop ..).trans ?_
    rw [hu.shared ho, ho]
    rfl
  · exact asleep_stop hu.asleep
  · intro e
    refine (hu.navigation e).trans ?_
    rw [← hlistening]
    rfl
  · intro e
    refine (hu.visibility e).trans ?_
    rw [← hlistening]
    rfl

theorem disconnect (h : Arranged terms ready waits s) :
    Arranged terms ready waits s.disconnect := by
  obtain ⟨hready, hlisteners⟩ := document_disconnect s
  exact h.relooked hready hlisteners fun o ho hwho => absurd hwho (h.unobserved_disconnect o ho)

theorem stop (h : Arranged terms ready waits s) :
    Arranged terms ready (waits - 1) s.stop :=
  h.unlisten_ready.disconnect.stopPacing

end Arranged

/-! ## Runs -/

/-- Whether the page is ready and how many starts wait for that, after one more move. `opens` says
whether a start can come to watch the page. -/
def Move.waitsAfter (opens : Bool) (w : Bool × Nat) : Move → Bool × Nat
  | .start => (w.1, if opens && !w.1 then w.2 + 1 else w.2)
  | .stop => (w.1, w.2 - 1)
  | .markReady => (true, 0)
  | .event name => (w.1, if name = Session.readyEvent then 0 else w.2)
  | _ => w

theorem waitsAfter_spent {w : Bool × Nat} (opens : Bool) (m : Move) (h : w.1 = true → w.2 = 0) :
    (m.waitsAfter opens w).1 = true → (m.waitsAfter opens w).2 = 0 := by
  intro hready
  cases m with
  | start =>
      have hready : w.1 = true := hready
      simp [Move.waitsAfter, hready, h hready]
  | stop => exact (congrArg (· - 1) (h hready)).trans rfl
  | markReady => rfl
  | event name =>
      have hnone : w.2 = 0 := h hready
      simp [Move.waitsAfter, hnone]
  | hide _ | change _ | batch _ | notice | pass _ => exact h hready

theorem waitsAfter_fst {w : Bool × Nat} (opens : Bool) {m : Move} (hm : m.announces = false) :
    (m.waitsAfter opens w).1 = w.1 := by
  cases m with
  | markReady => cases hm
  | start | stop | event _ | hide _ | change _ | batch _ | notice | pass _ => rfl

theorem waitsAfter_announced {w : Bool × Nat} (opens : Bool) {m : Move} (hm : m.announces = true) :
    (m.waitsAfter opens w).2 = 0 := by
  cases m with
  | markReady => rfl
  | event name =>
      have hname : name = Session.readyEvent := beq_iff_eq.mp hm
      simp [Move.waitsAfter, hname]
  | start | stop | hide _ | change _ | batch _ | notice | pass _ => cases hm

theorem waitsAfter_none {w : Bool × Nat} (opens : Bool) {m : Move} (hm : m ≠ .start)
    (h : w.2 = 0) : (m.waitsAfter opens w).2 = 0 := by
  cases m with
  | start => exact absurd rfl hm
  | stop | event _ => simp [Move.waitsAfter, h]
  | markReady => rfl
  | hide _ | change _ | batch _ | notice | pass _ => exact h

theorem waitsAfter_closed {w : Bool × Nat} (m : Move) (h : w.2 = 0) :
    (m.waitsAfter false w).2 = 0 := by
  cases m <;> simp [Move.waitsAfter, h]

/-- What holds of a session between its moves. -/
structure Kept (keeps : Bool) (terms : Settings.Layout × Bool) (w : Bool × Nat) (s : Session τ) :
    Prop extends Arranged terms w.1 w.2 s where
  spent : w.1 = true → w.2 = 0
  /-- A pacer alone watches nothing. -/
  bare : keeps = false → w.2 = 0 ∧ s.watcher.observation = none

/-- A session of which nothing has been asked yet. Its timer is its own and not at work, or it is
another's and at work, perhaps with jobs of the host. -/
structure Untouched (s : Session τ) : Prop where
  pacer : s.pacer = {}
  unobserved : s.watcher.observation = none
  observers : ∀ o ∈ s.document.observations, o.who ≠ .keeper
  listeners : ∀ e, ∀ l ∈ s.document.listenersOf e, ∃ name, l = .host name
  jobs : ∀ j ∈ s.timer.jobs, j.task = .host
  owned : s.owned = true → s.timer.running = false ∧ s.timer.jobs = []
  shared : s.owned = false → s.timer.running = true

/-- A session on a timer that is not its own and is at work already. -/
def sharedSession : Session Unit :=
  { wordSession with owned := false, timer := (Timer.idle .exact).start }

theorem untouched_sharedSession : Untouched sharedSession where
  pacer := rfl
  unobserved := rfl
  observers := fun _ h => absurd h List.not_mem_nil
  listeners := fun _ _ h => absurd h List.not_mem_nil
  jobs := fun _ h => absurd h List.not_mem_nil
  owned := fun h => absurd h (by decide)
  shared := fun _ => rfl

theorem count_host {ls : List Listener} (h : ∀ l ∈ ls, ∃ name, l = .host name) {l : Listener}
    (hl : ∀ name, l ≠ .host name) : ls.count l = 0 := by
  refine List.count_eq_zero.mpr fun hmem => ?_
  obtain ⟨name, rfl⟩ := h l hmem
  exact hl name rfl

theorem Untouched.kept (h : Untouched s) (keeps : Bool) :
    Kept keeps (s.settings, s.owned) (s.document.ready, 0) s := by
  have hsilent (e : String) {l : Listener} (hl : ∀ name, l ≠ .host name) :
      (s.document.listenersOf e).count l = 0 := count_host (h.listeners e) hl
  refine ⟨⟨rfl, rfl, ?_, h.shared, ?_, ?_, ?_, ?_, ?_⟩, fun _ => rfl, fun _ => ⟨rfl, h.unobserved⟩⟩
  · exact fun j hj htask => absurd (h.jobs j hj) htask
  · intro hasleep
    cases ho : s.owned with
    | true => exact (h.owned ho).2
    | false => exact absurd ((h.shared ho).symm.trans hasleep) (by decide)
  · intro e
    rw [hsilent e (by simp), h.pacer]
    rfl
  · intro e
    rw [hsilent e (by simp), h.pacer]
    simp
  · intro e
    rw [hsilent e (by simp), ite_self]
  · exact fun o ho hwho => absurd hwho (h.observers o ho)

theorem delays_congr (h : s'.settings = s.settings) : s'.delays = s.delays := by
  rw [Session.delays, h, Session.delays]

namespace Kept

variable {keeps : Bool} {w : Bool × Nat} {sweep : Session τ → Session τ × Bool}
  (hsweep : Tame sweep)

/-- Nobody waits for the page under the name of another event. -/
theorem silent_other (h : Kept keeps terms w s) (e : String) (he : e ≠ Session.readyEvent) :
    .ready ∉ s.document.listenersOf e := by
  have hcount := h.waiting e
  rw [if_neg (Ne.symm he)] at hcount
  exact List.count_eq_zero.mp hcount

/-- When nobody waits for the page, nobody is called for it. -/
theorem silent_ready (h : Kept keeps terms w s) (hw : w.2 = 0) :
    .ready ∉ s.document.listenersOf Session.readyEvent := by
  have hcount := h.waiting Session.readyEvent
  rw [hw, ite_self] at hcount
  exact List.count_eq_zero.mp hcount

include hsweep

theorem arranged_make (h : Kept keeps terms w s) (m : Move) :
    Arranged terms (m.waitsAfter (keeps && s.delays.2) w).1 (m.waitsAfter (keeps && s.delays.2) w).2
      (m.make keeps (sweeping sweep) s) := by
  have hwhole := h.toArranged
  cases m with
  | start =>
      cases keeps with
      | true => exact hwhole.start hsweep
      | false => exact hwhole.startPacing
  | stop =>
      cases keeps with
      | true => exact hwhole.stop
      | false =>
          have hnone : w.2 - 1 = w.2 := by rw [(h.bare rfl).1]
          unfold Move.waitsAfter Move.make
          dsimp only
          rw [hnone]
          exact hwhole.stopPacing
  | markReady =>
      unfold Move.make Move.waitsAfter Session.markReady
      dsimp only
      split
      · -- a page that is ready already has nobody waiting
        rename_i hready
        have hw : w.1 = true := h.ready.symm.trans hready
        have := h.spent hw
        rw [hw, this] at hwhole
        exact hwhole
      · have hopened : Arranged terms true w.2
            { s with document := { s.document with ready := true } } :=
          ⟨hwhole.under, rfl, hwhole.own, hwhole.shared, hwhole.asleep, hwhole.navigation,
            hwhole.visibility, hwhole.waiting, hwhole.keeper⟩
        exact hopened.dispatch hsweep Session.readyEvent
  | event name => exact hwhole.dispatch hsweep name
  | hide hidden =>
      have hturned : Arranged terms w.1 w.2 { s with document := { s.document with hidden } } :=
        ⟨hwhole.under, hwhole.ready, hwhole.own, hwhole.shared, hwhole.asleep, hwhole.navigation,
          hwhole.visibility, hwhole.waiting, hwhole.keeper⟩
      exact hturned.dispatch hsweep Session.visibilityEvent
  | change m => exact hwhole.stirred (stirred_perform m s)
  | batch ms => exact hwhole.stirred (stirred_batch sweep ms s)
  | notice => exact hwhole.notify
  | pass ms =>
      exact advance_keeps (P := Arranged terms w.1 w.2) (Q := fun _ => True)
        (fun hrunning hjobs h => h.retimed hrunning hjobs) (fun _ _ _ => trivial)
        (fun _ h => h.perform hsweep _) hwhole ms

theorem make (h : Kept keeps terms w s) (m : Move) :
    Kept keeps terms (m.waitsAfter (keeps && s.delays.2) w)
      (m.make keeps (sweeping sweep) s) := by
  refine ⟨h.arranged_make hsweep m, waitsAfter_spent _ m h.spent, ?_⟩
  rintro rfl
  obtain ⟨hnone, hunobserved⟩ := h.bare rfl
  refine ⟨waitsAfter_closed m hnone, ?_⟩
  by_cases hstart : m = .start
  · rw [hstart]
    exact (congrArg _ (startPacing_watcher s)).trans hunobserved
  by_cases hstop : m = .stop
  · rw [hstop]
    exact (congrArg _ (stopPacing_watcher s)).trans hunobserved
  · have hsame := lookout_make hsweep false hstart hstop h.silent_other
      fun _ => h.silent_ready hnone
    exact (congrArg (·.1.observation) hsame).trans hunobserved

theorem runDue (h : Kept keeps terms w s) : Kept keeps terms w (s.runDue (sweeping sweep)) := by
  refine ⟨h.runRounds hsweep _ _, h.spent, fun hbare => ⟨(h.bare hbare).1, ?_⟩⟩
  exact (congrArg (·.1.observation) (lookout_runDue hsweep s)).trans (h.bare hbare).2

/-- **Between its moves a session has left no more with others than it knows of.** -/
theorem run (ms : List Move) : ∀ {w : Bool × Nat} {s : Session τ}, Kept keeps terms w s →
    Kept keeps terms (ms.foldl (fun w m => m.waitsAfter (keeps && s.delays.2) w) w)
      (run keeps (sweeping sweep) s ms) := by
  induction ms with
  | nil => exact fun h => h
  | cons m r ih =>
      intro w s h
      have hnext := (h.make hsweep m).runDue hsweep
      have hdelays :
          ((m.make keeps (sweeping sweep) s).runDue (sweeping sweep)).delays = s.delays :=
        delays_congr (congrArg Prod.fst (hnext.under.trans h.under.symm))
      have hrest := ih hnext
      rw [hdelays] at hrest
      exact hrest

end Kept

end StickerPages.Live
