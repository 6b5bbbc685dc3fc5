import StickerPages.Live.Session
import StickerPages.Proofs.Changes
import StickerPages.Proofs.Resweeping

/-!
# What the parts of a session do

One lemma for each part of a session that keeps a page in order, for a session that nobody else
meddles with (`Hooks.idle`). A notice leaves the debounce job in the timer and the pacer pending.
Telling of changes either does nothing or is one notice, however many observations there are,
because a second notice at the same instant changes nothing. A sweep settles the page and touches
neither the timer nor the audience.

`AtWork` collects what these lemmas need and what every one of them keeps; `Watching` adds that the
session's watcher is connected.
-/

namespace StickerPages.Live

open Markup Layout Timing

variable {τ : Type}

/-- A session at work under settings that describe the rules. -/
structure AtWork (settings : Settings.Layout) (rules : Rules) (s : Session τ) : Prop where
  settings : s.settings = settings
  sweeper : s.sweeper = .page
  numbered : s.document.forest.Numbered
  tags : s.watcher.blockTags = rules.blockTags
  running : s.timer.running = true
  /-- The debounce job's name is the pacer's own. -/
  job : ∀ j ∈ s.timer.jobs, j.id = debounceJob → j.task = .sweep .debounced

/-- A session at work whose watcher is connected. -/
structure Watching (settings : Settings.Layout) (rules : Rules) (s : Session τ) : Prop
    extends AtWork settings rules s where
  keeper : ∃ o ∈ s.document.observations, o.who = .keeper ∧ o.roots = s.watcher.roots

/-- What most steps leave alone: settings and watcher, jobs and observations. -/
def fixtures (s : Session τ) :=
  (s.settings, s.sweeper, s.watcher, s.timer.running, s.timer.jobs, s.document.observations)

variable {settings : Settings.Layout} {rules : Rules} {s : Session τ}

theorem AtWork.carry (h : AtWork settings rules s) {s' : Session τ}
    (same : fixtures s' = fixtures s) (numbered : s'.document.forest.Numbered) : AtWork settings rules s' := by
  simp only [fixtures, Prod.mk.injEq] at same
  obtain ⟨h1, h2, h3, h4, h5, _⟩ := same
  exact ⟨h1.trans h.settings, h2.trans h.sweeper, numbered, h3 ▸ h.tags, h4.trans h.running,
    h5 ▸ h.job⟩

theorem Watching.carry (h : Watching settings rules s) {s' : Session τ}
    (same : fixtures s' = fixtures s) (numbered : s'.document.forest.Numbered) :
    Watching settings rules s' := by
  refine ⟨h.toAtWork.carry same numbered, ?_⟩
  simp only [fixtures, Prod.mk.injEq] at same
  obtain ⟨_, _, h3, _, _, h6⟩ := same
  rw [h3, h6]
  exact h.keeper

/-! ## Notices -/

theorem pending_noting (p : Pacer) (id : String) : (p.noting id).pending = p.pending := by
  unfold Pacer.noting
  split <;> rfl

theorem counts_noting (p : Pacer) (id : String) : (p.noting id).counts = p.counts := by
  unfold Pacer.noting
  split <;> rfl

theorem contains_noting (p : Pacer) (id : String) : (p.noting id).made.contains id = true := by
  unfold Pacer.noting
  split
  · assumption
  · simp

theorem noting_of_contains {p : Pacer} {id : String} (h : p.made.contains id = true) :
    p.noting id = p :=
  if_pos h

theorem pending_self {p : Pacer} (h : p.pending = true) : { p with pending := true } = p := by
  cases p
  cases h
  rfl

theorem put_put {α : Type} (t : Timer α) (id : String) (delay : Nat) (task : α) :
    (t.put id delay task).put id delay task = t.put id delay task := by
  simp [Timer.put, List.filter_append, List.filter_filter]

theorem notify_eq (hrun : s.timer.running = true) :
    s.notify = { s with
      pacer := { s.pacer with pending := true }.noting debounceJob
      timer := s.timer.put debounceJob s.debounce (.sweep .debounced) } := by
  simp [Session.notify, Pacer.notify, hrun]

/-- A second notice at the same instant changes nothing. -/
theorem notify_notify (hrun : s.timer.running = true) : s.notify.notify = s.notify := by
  have hrun' : s.notify.timer.running = true := by
    rw [notify_eq hrun]
    exact hrun
  have hpending : s.notify.pacer.pending = true := by
    rw [notify_eq hrun]
    exact pending_noting _ _
  have hmade : s.notify.pacer.made.contains debounceJob = true := by
    rw [notify_eq hrun]
    exact contains_noting _ _
  have hpacer : ({ s.notify.pacer with pending := true } : Pacer).noting debounceJob =
      s.notify.pacer := by
    rw [pending_self hpending, noting_of_contains hmade]
  have htimer : s.notify.timer.put debounceJob s.notify.debounce (.sweep .debounced) =
      s.notify.timer := by
    rw [notify_eq hrun]
    exact put_put ..
  rw [notify_eq hrun', hpacer, htimer]

theorem has_put {α : Type} (t : Timer α) (id : String) (delay : Nat) (task : α) :
    (t.put id delay task).has id = true := by
  simp [Timer.has, Timer.put]

/-- **A notice leaves the pacer pending and the debounce job waiting.** -/
theorem Watching.notify (h : Watching settings rules s) :
    Watching settings rules s.notify ∧ s.notify.pacer.pending = true ∧
      s.notify.timer.has debounceJob = true := by
  rw [notify_eq h.running]
  refine ⟨⟨⟨h.settings, h.sweeper, h.numbered, h.tags, h.running, ?_⟩, h.keeper⟩, ?_,
    has_put ..⟩
  · intro j hj hid
    rcases List.mem_append.mp hj with hj | hj
    · have hne := (List.mem_filter.mp hj).2
      simp [hid] at hne
    · rw [List.mem_singleton.mp hj]
  · exact pending_noting _ _

/-! ## Telling -/

/-- The session's watcher takes notice of these changes through this observation. -/
def heeds (s : Session τ) (cs : List Change) (o : Observation Observer) : Bool :=
  o.who == .keeper &&
    (o.matching s.document.forest cs).any (s.watcher.minds s.document.forest)

theorem tellOne_idle (cs : List Change) (o : Observation Observer) :
    s.tellOne Hooks.idle cs o = if heeds s cs o then s.notify else s := by
  unfold Session.tellOne heeds
  cases hm : o.matching s.document.forest cs with
  | nil => simp
  | cons c r => cases hw : o.who <;> simp [Hooks.idle]

/-- **Telling of changes is one notice, or nothing.** -/
theorem tell_idle (hrun : s.timer.running = true) (cs : List Change) :
    s.tell Hooks.idle cs =
      if s.document.observations.any (heeds s cs) then s.notify else s := by
  have hfold (os : List (Observation Observer)) : ∀ s : Session τ, s.timer.running = true →
      os.foldl (Session.tellOne Hooks.idle cs) s =
        if os.any (heeds s cs) then s.notify else s := by
    induction os with
    | nil => intro s _; rfl
    | cons o r ih =>
        intro s hrun
        rw [List.foldl_cons, tellOne_idle, List.any_cons]
        by_cases ho : heeds s cs o = true
        · have hsame : heeds s.notify cs = heeds s cs := by
            rw [notify_eq hrun]
            rfl
          have hrun' : s.notify.timer.running = true := by
            rw [notify_eq hrun]
            exact hrun
          rw [if_pos ho, ih _ hrun', hsame, notify_notify hrun, ho, ite_self]
          rfl
        · rw [if_neg ho, ih _ hrun, Bool.eq_false_iff.mpr ho, Bool.false_or]
  exact hfold _ s hrun

/-- An awaited record is heeded. -/
theorem Watching.heeds (h : Watching settings rules s) {cs : List Change}
    (hcs : Awaited rules s.watcher.roots s.document.forest cs) :
    s.document.observations.any (heeds s cs) = true := by
  obtain ⟨o, ho, hwho, hroots⟩ := h.keeper
  obtain ⟨c, hc, ⟨r, hr, hcontains⟩, hweighty⟩ := hcs
  refine List.any_eq_true.mpr ⟨o, ho, ?_⟩
  rw [Live.heeds, hwho]
  have hmatch : c ∈ o.matching s.document.forest cs :=
    List.mem_filter.mpr ⟨hc, List.any_eq_true.mpr ⟨r, hroots ▸ hr, hcontains⟩⟩
  simpa using ⟨c, hmatch, hweighty.minds h.tags⟩

/-! ## Sweeping -/

/-- **A sweep settles the page**, and nothing else changes but a count. -/
theorem AtWork.sweepNow (h : AtWork settings rules s) (hd : Describes settings rules)
    (hs : rules.Sound) (reason : String) :
    ∃ page, (s.sweepNow Hooks.idle reason).1 =
        { s with pacer := s.pacer.count reason, document := s.document.withPage page } ∧
      (s.document.withPage page).forest.Numbered ∧ Settled rules page := by
  obtain ⟨sizes, _, hsweep⟩ := hd.sweepUnder_eq s.page
  have hswept : Layout.Swept rules sizes s.page (sweep rules sizes s.page).1 :=
    sweep_swept sizes hs h.numbered.page
  refine ⟨(sweep rules sizes s.page).1, ?_, ?_, hswept.settled⟩
  · rw [← h.settings, Session.page] at hsweep
    simp only [Session.sweepNow, Session.page, h.sweeper, hsweep]
  · obtain ⟨g, _, htree⟩ := hswept.tree
    have hids : Node.idsOfAll ((sweep rules sizes s.page).1 :: s.document.forest.loose) =
        s.document.forest.ids := by
      rw [Node.idsOfAll_cons, htree, Node.ids_retouch_heads]
      rfl
    have hnumbered := h.numbered
    rw [Forest.Numbered, ← hids] at hnumbered
    exact hnumbered

/-! ## Connecting -/

/-- Connecting leaves the watcher with an observation of its regions. -/
theorem AtWork.connect (h : AtWork settings rules s) :
    Watching settings rules s.connect ∧ s.connect.page = s.page ∧ s.connect.pacer = s.pacer ∧
      s.connect.timer = s.timer := by
  have hforest : s.connect.document.forest = s.document.forest := by
    unfold Session.connect Watcher.connect Watcher.disconnect
    cases s.watcher.observation <;> rfl
  have hwork : AtWork settings rules s.connect :=
    ⟨h.settings, h.sweeper, hforest ▸ h.numbered, h.tags, h.running, h.job⟩
  refine ⟨⟨hwork, ?_⟩, ?_, rfl, rfl⟩
  · exact ⟨_, List.mem_append_right _ (List.mem_singleton_self _), rfl, rfl⟩
  · rw [Session.page, hforest, Session.page]

/-- The first sweep and the connection after it. -/
theorem AtWork.engage (h : AtWork settings rules s) (hd : Describes settings rules)
    (hs : rules.Sound) :
    Watching settings rules (s.engage Hooks.idle) ∧ Settled rules (s.engage Hooks.idle).page ∧
      (s.engage Hooks.idle).pacer.pending = s.pacer.pending ∧
      (s.engage Hooks.idle).timer = s.timer := by
  obtain ⟨page, heq, hnumbered, hsettled⟩ := h.sweepNow hd hs "load"
  have hwork : AtWork settings rules (s.sweepNow Hooks.idle "load").1 := by
    rw [heq]
    exact h.carry rfl hnumbered
  obtain ⟨hwatching, hpage, hpacer, htimer⟩ := hwork.connect
  unfold Session.engage
  refine ⟨hwatching.carry rfl hwatching.numbered, ?_, ?_, ?_⟩
  · show Settled rules (s.sweepNow Hooks.idle "load").1.connect.page
    rw [hpage, heq]
    exact hsettled
  · show (s.sweepNow Hooks.idle "load").1.connect.pacer.pending = _
    rw [hpacer, heq]
    rfl
  · show (s.sweepNow Hooks.idle "load").1.connect.timer = _
    rw [htimer, heq]

/-! ## Starting -/

theorem delayedJob_ne (delay : Nat) : delayedJob delay ≠ debounceJob := by
  intro h
  have hfront := congrArg (fun id => id.toList.take 11) h
  dsimp only [delayedJob] at hfront
  rw [String.toList_append, List.take_append_of_le_length (by decide)] at hfront
  exact absurd hfront (by decide)

/-- Settings that can be gone through by whole numbers are delays. -/
theorem delays_eq {delays : List Nat}
    (h : s.settings.delayedSweepsMs.items? = some (delays.map fun d : Nat => .int d)) :
    s.delays = (delays, true) := by
  have hwhole : (delays.map fun d : Nat => Value.int d).takeWhile (·.whole?.isSome) =
      delays.map fun d : Nat => Value.int d :=
    List.takeWhile_eq_self_iff.mpr (by simp [Value.whole?, Scalar.whole?])
  rw [Session.delays, h]
  dsimp only
  rw [hwhole]
  simp [Value.whole, Value.whole?, Scalar.whole?, Function.comp_def]

/-- Starting makes jobs of other names only. -/
theorem pacer_start (delays : List Nat) (p : Pacer) (t : Timer Duty) :
    (Pacer.start delays Duty.sweep (p, t)).1.pending = p.pending ∧
      (Pacer.start delays Duty.sweep (p, t)).2.running = true ∧
      ∀ j ∈ (Pacer.start delays Duty.sweep (p, t)).2.jobs, j.id = debounceJob → j ∈ t.jobs := by
  have hfold : ∀ x : Pacer × Timer Duty,
      (delays.foldl (Pacer.delay Duty.sweep) x).1.pending = x.1.pending ∧
        (delays.foldl (Pacer.delay Duty.sweep) x).2.running = x.2.running ∧
        ∀ j ∈ (delays.foldl (Pacer.delay Duty.sweep) x).2.jobs, j.id = debounceJob →
          j ∈ x.2.jobs := by
    induction delays with
    | nil => exact fun x => ⟨rfl, rfl, fun j hj _ => hj⟩
    | cons d r ih =>
        intro x
        obtain ⟨hpending, hrunning, hjobs⟩ := ih (Pacer.delay Duty.sweep x d)
        refine ⟨hpending.trans (pending_noting _ _), hrunning, fun j hj hid => ?_⟩
        rcases List.mem_append.mp (hjobs j hj hid) with hj | hj
        · exact (List.mem_filter.mp hj).1
        · rw [List.mem_singleton.mp hj] at hid
          exact absurd hid (delayedJob_ne d)
  exact hfold (p, t.start)

theorem foldl_listen {ℓ ω : Type} (l : ℓ) (es : List String) : ∀ d : Document ℓ ω,
    ∃ ls, es.foldl (fun d e => d.listen e l) d = { d with listeners := ls } := by
  induction es with
  | nil => exact fun d => ⟨d.listeners, rfl⟩
  | cons e r ih =>
      intro d
      obtain ⟨ls, h⟩ := ih (d.listen e l)
      exact ⟨ls, h⟩

/-- Listening changes the audience of events and nothing else. -/
theorem subscribe_eq (s : Session τ) : ∃ ls listening,
    s.subscribe = { s with
      document := { s.document with listeners := ls }
      pacer := { s.pacer with listening } } := by
  unfold Session.subscribe
  split
  · exact ⟨s.document.listeners, s.pacer.listening, rfl⟩
  · obtain ⟨ls, h⟩ := foldl_listen Listener.navigation s.navigations s.document
    rw [h]
    exact ⟨_, true, rfl⟩

end StickerPages.Live
