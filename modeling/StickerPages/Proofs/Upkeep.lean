import StickerPages.Proofs.Pacing

/-!
# No change of the page is lost

A session that keeps a page in order may be wrong about it for a while: the page changes, and the
sweep comes when the debounce job is due. What must never happen is that it stays wrong. So at every
moment either the pacer is pending and its job is in the timer or in hand, or the page is settled.

While a batch is open this fails, because nobody has been told. The invariant therefore has a third
case: among the records that wait there is one that the watcher will mind when it is told
(`Awaited`). A later change in the batch cannot take that away, for a change that the watcher passes
over is harmless (`Effect.weighty_or_harmless`), and one that it does not pass over is itself such a
record.

A run goes in small steps. Jobs are taken from the timer in one step and done in later ones, in any
order and with anything else in between; a clock may show any time. `advance` and `runDue` are made
of such steps.
-/

namespace StickerPages.Live

open Markup Layout Timing

variable {τ : Type}

/-- The change as the session makes it, with nobody else looking on. -/
def Mutation.perform (m : Mutation) (s : Session τ) : Session τ :=
  match m with
  | .append t markup => (s.append Hooks.idle t markup).1
  | .insert t index markup => (s.insert Hooks.idle t index markup).1
  | .replaceChildren t markup => (s.replaceChildren Hooks.idle t markup).1
  | .remove t => s.remove Hooks.idle t
  | .setText t text => ((s.setText Hooks.idle t text).map (·.1)).getD s

/-- A session and the duties taken from its timer that are still to be done. -/
structure Scene (τ : Type) where
  session : Session τ
  hand : List Duty

/-- What can happen to a session between its start and its stop. -/
inductive Step : Scene τ → Scene τ → Prop where
  /-- The page changes, and the record, if there is one, lies in an observed region. -/
  | mutate {s : Session τ} {hand : List Duty} (m : Mutation) (proper : m.Proper s.document.forest)
      (inside : ∀ f c, m.change s.document.forest = some (f, c) → Observed s.watcher.roots f c) :
      Step ⟨s, hand⟩ ⟨m.perform s, hand⟩
  | openBatch {s : Session τ} {hand : List Duty} :
      Step ⟨s, hand⟩ ⟨{ s with document := s.document.openBatch.1 }, hand⟩
  | closeBatch {s : Session τ} {hand : List Duty} :
      Step ⟨s, hand⟩ ⟨Session.tell Hooks.idle { s with document := s.document.closeBatch.1 }
        s.document.closeBatch.2, hand⟩
  | dispatch {s : Session τ} {hand : List Duty} (event : String) :
      Step ⟨s, hand⟩ ⟨(s.dispatch Hooks.idle event).1, hand⟩
  | setHidden {s : Session τ} {hand : List Duty} (hidden : Bool) :
      Step ⟨s, hand⟩ ⟨s.setHidden Hooks.idle hidden, hand⟩
  | markReady {s : Session τ} {hand : List Duty} :
      Step ⟨s, hand⟩ ⟨s.markReady Hooks.idle, hand⟩
  /-- Time passes, or the alarm is set to another instant. -/
  | clock {s : Session τ} {hand : List Duty} (now since : Nat) :
      Step ⟨s, hand⟩ ⟨{ s with timer := { s.timer with now, since } }, hand⟩
  /-- The jobs due by some instant are taken from the timer. -/
  | ring {s : Session τ} {hand : List Duty} (instant : Nat) :
      Step ⟨s, hand⟩ ⟨{ s with timer := (s.timer.takeDue instant).2 },
        hand ++ (s.timer.takeDue instant).1.map (·.task)⟩
  /-- One of the duties in hand is done. -/
  | perform {s : Session τ} (front : List Duty) (d : Duty) (back : List Duty) :
      Step ⟨s, front ++ d :: back⟩ ⟨s.perform Hooks.idle d, front ++ back⟩

/-- A session of the page that has not been started, or has been stopped. -/
structure Fresh (settings : Settings.Layout) (s : Session τ) : Prop where
  under : s.settings = settings
  sweeper : s.sweeper = .page
  ready : s.document.ready = true
  numbered : s.document.forest.Numbered
  watcher : s.watcher = Watcher.under settings
  calm : s.pacer.pending = false
  /-- Nobody who shares the timer uses the debounce job's name. -/
  own : ∀ j ∈ s.timer.jobs, j.id ≠ debounceJob

/-- So is every session made for a page just read. -/
theorem fresh_ofMarkup (settings : Settings.Layout) (markup : String) (owned : Bool) (clock : Clock)
    (host : τ) :
    Fresh settings
      { document := .ofMarkup markup true, settings, sweeper := .page, owned
        timer := .idle clock, pacer := {}, watcher := .under settings, log := [], host } where
  under := rfl
  sweeper := rfl
  ready := rfl
  numbered := Forest.numbered_ofMarkup markup
  watcher := rfl
  calm := rfl
  own := fun _ h => absurd h List.not_mem_nil

/-- The scenes that a started session can come to. -/
inductive Reachable (settings : Settings.Layout) : Scene τ → Prop where
  | init {s : Session τ} (fresh : Fresh settings s) (started : (s.start Hooks.idle).2 = true) :
      Reachable settings ⟨(s.start Hooks.idle).1, []⟩
  | tail {a b : Scene τ} (before : Reachable settings a) (step : Step a b) : Reachable settings b

/-- What every step keeps. -/
structure Upkeep (settings : Settings.Layout) (rules : Rules) (s : Session τ) (hand : List Duty) :
    Prop where
  watching : Watching settings rules s
  scheduled : s.pacer.pending = true →
    s.timer.has debounceJob = true ∨ .sweep .debounced ∈ hand
  settled : s.pacer.pending = false → Settled rules s.page ∨
    ∃ cs, s.document.waiting = some cs ∧ Awaited rules s.watcher.roots s.document.forest cs

variable {settings : Settings.Layout} {rules : Rules} {s : Session τ} {hand : List Duty}

/-! ## Changes -/

theorem perform_eq (m : Mutation) (s : Session τ) :
    m.perform s =
      match m.change s.document.forest with
      | some (f, c) => s.post Hooks.idle f c
      | none => s := by
  cases m with
  | append t markup => rfl
  | insert t index markup => rfl
  | replaceChildren t markup => rfl
  | remove t =>
      unfold Mutation.perform Session.remove Mutation.change
      dsimp only
      cases h : s.document.forest.remove t with
      | mk f o => cases o <;> rfl
  | setText t text =>
      unfold Mutation.perform Session.setText Mutation.change
      dsimp only
      cases s.document.forest.setText t text <;> rfl

/-- A telling that is heeded leaves the pacer pending; one that is not leaves everything. -/
theorem upkeep_tell (h : Watching settings rules s) (cs : List Change)
    (scheduled : s.pacer.pending = true → s.timer.has debounceJob = true ∨ .sweep .debounced ∈ hand)
    (settled : s.pacer.pending = false → ¬ Awaited rules s.watcher.roots s.document.forest cs →
      Settled rules s.page ∨
        ∃ cs, s.document.waiting = some cs ∧ Awaited rules s.watcher.roots s.document.forest cs) :
    Upkeep settings rules (s.tell Hooks.idle cs) hand := by
  rw [tell_idle h.running]
  split
  · obtain ⟨hwatching, hpending, hhas⟩ := h.notify
    refine ⟨hwatching, fun _ => .inl hhas, fun hcalm => ?_⟩
    exact absurd (hpending.symm.trans hcalm) (by decide)
  · rename_i hnot
    exact ⟨h, scheduled, fun hcalm => settled hcalm fun hcs => hnot (h.heeds hcs)⟩

theorem tell_nil (h : Watching settings rules s) : s.tell Hooks.idle [] = s := by
  rw [tell_idle h.running, if_neg]
  simp [heeds, Observation.matching]

/-- **A recorded change keeps the invariant**, told at once or kept waiting. -/
theorem upkeep_post (h : Upkeep settings rules s hand) {f : Forest} {c : Change}
    (hlater : s.document.forest.Later f) (heffect : Effect s.document.forest f c)
    (hobs : Observed s.watcher.roots f c) :
    Upkeep settings rules (s.post Hooks.idle f c) hand := by
  have hweight := heffect.weighty_or_harmless rules h.watching.numbered hlater hobs
  have hwatching (waiting : Option (List Change)) : Watching settings rules
      { s with document := { s.document with forest := f, waiting } } :=
    h.watching.carry rfl hlater.numbered
  unfold Session.post Document.record
  cases hw : s.document.waiting with
  | none =>
      -- told at once: what is not heeded is not weighty, so the page stays settled
      refine upkeep_tell (hwatching s.document.waiting) [c] h.scheduled fun hcalm hnot => ?_
      rcases hweight with hweighty | hharmless
      · exact absurd ⟨c, List.mem_singleton_self c, hobs, hweighty⟩ hnot
      · rcases h.settled hcalm with hset | ⟨cs, hcs, _⟩
        · exact .inl (hharmless.settled hset)
        · rw [hw] at hcs
          cases hcs
  | some cs =>
      -- kept waiting: nobody is told, and the record joins those that wait
      dsimp only
      rw [tell_nil (hwatching (some (cs ++ [c])))]
      refine ⟨hwatching (some (cs ++ [c])), h.scheduled, fun hcalm => ?_⟩
      rcases hweight with hweighty | hharmless
      · exact .inr ⟨_, rfl, c, List.mem_append_right _ (List.mem_singleton_self c), hobs, hweighty⟩
      · rcases h.settled hcalm with hset | ⟨cs', hcs', hawaited⟩
        · exact .inl (hharmless.settled hset)
        · rw [hw] at hcs'
          cases hcs'
          obtain ⟨d, hd, hrest⟩ := hharmless.awaited _ _ hawaited
          exact .inr ⟨_, rfl, d, List.mem_append_left _ hd, hrest⟩

theorem upkeep_openBatch (h : Upkeep settings rules s hand) :
    Upkeep settings rules { s with document := s.document.openBatch.1 } hand := by
  unfold Document.openBatch
  cases hw : s.document.waiting with
  | some cs => exact h
  | none =>
      refine ⟨h.watching.carry rfl h.watching.numbered, h.scheduled, fun hcalm => .inl ?_⟩
      rcases h.settled hcalm with hset | ⟨cs, hcs, _⟩
      · exact hset
      · rw [hw] at hcs
        cases hcs

/-- At the end of a batch the awaited record is told. -/
theorem upkeep_closeBatch (h : Upkeep settings rules s hand) :
    Upkeep settings rules (Session.tell Hooks.idle { s with document := s.document.closeBatch.1 }
      s.document.closeBatch.2) hand := by
  have hwatching : Watching settings rules { s with document := s.document.closeBatch.1 } :=
    h.watching.carry rfl h.watching.numbered
  refine upkeep_tell hwatching _ h.scheduled fun hcalm hnot => ?_
  rcases h.settled hcalm with hset | ⟨cs, hcs, hawaited⟩
  · exact .inl hset
  · refine absurd ?_ hnot
    rw [Document.closeBatch, hcs]
    exact hawaited

/-! ## Jobs taken from the timer -/

/-- The debounce job, if it is taken from the timer, is in hand. -/
theorem upkeep_ring (h : Upkeep settings rules s hand) (instant : Nat) :
    Upkeep settings rules { s with timer := (s.timer.takeDue instant).2 }
      (hand ++ (s.timer.takeDue instant).1.map (·.task)) := by
  have hkept {j : Job Duty} (hj : j ∈ (s.timer.takeDue instant).2.jobs) : j ∈ s.timer.jobs :=
    (List.mem_filter.mp hj).1
  refine ⟨⟨⟨h.watching.settings, h.watching.sweeper, h.watching.numbered, h.watching.tags,
    h.watching.running, fun j hj => h.watching.job j (hkept hj)⟩, h.watching.keeper⟩, ?_, h.settled⟩
  intro hp
  rcases h.scheduled hp with hhas | hhand
  · -- the job is taken if it is due, and stays in the timer if not
    obtain ⟨j, hj, hid⟩ := List.any_eq_true.mp hhas
    by_cases hdue : j.due ≤ instant
    · refine .inr (List.mem_append_right _ (List.mem_map.mpr ⟨j, ?_, ?_⟩))
      · exact List.mem_mergeSort.mpr (List.mem_filter.mpr ⟨hj, by simpa using hdue⟩)
      · exact h.watching.job j hj (by simpa using hid)
    · refine .inl (List.any_eq_true.mpr ⟨j, List.mem_filter.mpr ⟨hj, ?_⟩, hid⟩)
      simpa using hdue
  · exact .inr (List.mem_append_left _ hhand)

/-! ## The start -/

/-- The pacer of a fresh session goes to work without a notice of its own. -/
theorem startPacing_spec (hd : Describes settings rules) (h : Fresh settings s)
    (hstart : s.startPacing.2 = true) :
    AtWork settings rules s.startPacing.1 ∧ s.startPacing.1.document.ready = true ∧
      s.startPacing.1.pacer.pending = false := by
  obtain ⟨hpending, hrunning, hjobs⟩ := pacer_start s.delays.1 s.pacer s.timer
  unfold Session.startPacing at hstart ⊢
  dsimp only at hstart ⊢
  split at hstart
  · rename_i hsound
    rw [if_pos hsound]
    obtain ⟨ls, listening, hsub⟩ := subscribe_eq { s with
      pacer := (Pacer.start s.delays.1 Duty.sweep (s.pacer, s.timer)).1
      timer := (Pacer.start s.delays.1 Duty.sweep (s.pacer, s.timer)).2 }
    rw [hsub]
    refine ⟨⟨h.under, h.sweeper, h.numbered, ?_, hrunning, fun j hj hid => ?_⟩, h.ready,
      hpending.trans h.calm⟩
    · show s.watcher.blockTags = _
      rw [h.watcher, Watcher.under, hd.blockTags]
      rfl
    · exact absurd hid (h.own j (hjobs j hj hid))
  · cases hstart

/-! ## Sweeps, events and duties -/

section

variable (hd : Describes settings rules) (hs : rules.Sound)

include hd hs

theorem upkeep_sweepNow (h : Upkeep settings rules s hand) (reason : String) :
    Upkeep settings rules (s.sweepNow Hooks.idle reason).1 hand := by
  obtain ⟨page, heq, hnumbered, hsettled⟩ := h.watching.toAtWork.sweepNow hd hs reason
  rw [heq]
  exact ⟨h.watching.carry rfl hnumbered, h.scheduled, fun _ => .inl hsettled⟩

theorem upkeep_hear (h : Upkeep settings rules s hand) (event : String) (l : Listener) :
    Upkeep settings rules (s.hear Hooks.idle event l) hand := by
  cases l with
  | ready =>
      have hwork : AtWork settings rules
          { s with document := s.document.unlisten Session.readyEvent .ready } :=
        h.watching.toAtWork.carry rfl h.watching.numbered
      obtain ⟨hwatching, hsettled, hpending, htimer⟩ := hwork.engage hd hs
      exact ⟨hwatching, fun hp => htimer ▸ h.scheduled (hpending.symm.trans hp),
        fun _ => .inl hsettled⟩
  | navigation => exact upkeep_sweepNow hd hs h event
  | visibility =>
      unfold Session.hear
      dsimp only
      split
      · exact h
      · exact upkeep_sweepNow hd hs h event
  | host name => exact h

theorem upkeep_dispatch (h : Upkeep settings rules s hand) (event : String) :
    Upkeep settings rules (s.dispatch Hooks.idle event).1 hand := by
  have hfold (ls : List Listener) : ∀ s : Session τ, Upkeep settings rules s hand →
      Upkeep settings rules (ls.foldl (Session.hear Hooks.idle event) s) hand := by
    induction ls with
    | nil => exact fun s h => h
    | cons l r ih => exact fun s h => ih _ (upkeep_hear hd hs h event l)
  exact hfold _ s h

/-- Doing what the debounce job asks for settles the page; no other duty takes that one away. -/
theorem upkeep_perform {front back : List Duty} {d : Duty}
    (h : Upkeep settings rules s (front ++ d :: back)) :
    Upkeep settings rules (s.perform Hooks.idle d) (front ++ back) := by
  -- a duty that is not the debounce job leaves that job where it is
  have hother (hne : d ≠ .sweep .debounced) : Upkeep settings rules s (front ++ back) := by
    refine ⟨h.watching, fun hp => (h.scheduled hp).imp_right fun hm => ?_, h.settled⟩
    rcases List.mem_append.mp hm with hm | hm
    · exact List.mem_append_left _ hm
    · rcases List.mem_cons.mp hm with rfl | hm
      · exact absurd rfl hne
      · exact List.mem_append_right _ hm
  cases d with
  | host => exact hother (by decide)
  | sweep task =>
      cases task with
      | delayed => exact upkeep_sweepNow hd hs (hother (by decide)) "delayed"
      | debounced =>
          have hwork : AtWork settings rules { s with pacer := Pacer.settle (s.pacer, s.timer) } :=
            h.watching.toAtWork.carry rfl h.watching.numbered
          obtain ⟨page, heq, hnumbered, hsettled⟩ := hwork.sweepNow hd hs "debounce"
          show Upkeep settings rules (Session.sweepNow Hooks.idle "debounce" _).1 _
          rw [heq]
          refine ⟨h.watching.carry rfl hnumbered, fun hp => ?_, fun _ => .inl hsettled⟩
          -- the pacer stays pending only if a new notice has put the job back
          have hp' : (Pacer.settle (s.pacer, s.timer)).pending = true := hp
          unfold Pacer.settle at hp'
          split at hp'
          · exact .inl ‹_›
          · cases hp'

/-! ## Every run -/

theorem upkeep_setHidden (h : Upkeep settings rules s hand) (hidden : Bool) :
    Upkeep settings rules (s.setHidden Hooks.idle hidden) hand := by
  have hhidden : Upkeep settings rules { s with document := { s.document with hidden } } hand :=
    ⟨h.watching.carry rfl h.watching.numbered, h.scheduled, h.settled⟩
  exact upkeep_dispatch hd hs hhidden _

theorem upkeep_markReady (h : Upkeep settings rules s hand) :
    Upkeep settings rules (s.markReady Hooks.idle) hand := by
  unfold Session.markReady
  split
  · exact h
  · have hready :
        Upkeep settings rules { s with document := { s.document with ready := true } } hand :=
      ⟨h.watching.carry rfl h.watching.numbered, h.scheduled, h.settled⟩
    exact upkeep_dispatch hd hs hready _

theorem upkeep_init (h : Fresh settings s) (hstart : (s.start Hooks.idle).2 = true) :
    Upkeep settings rules (s.start Hooks.idle).1 [] := by
  unfold Session.start at hstart ⊢
  cases hpacing : s.startPacing with
  | mk s' started =>
      rw [hpacing] at hstart
      cases started with
      | false => cases hstart
      | true =>
          have hspec := startPacing_spec hd h (by rw [hpacing])
          rw [hpacing] at hspec
          obtain ⟨hwork, hready, hcalm⟩ := hspec
          -- the document is ready, so the session engages without waiting for an event
          dsimp only
          rw [if_pos hready]
          obtain ⟨hwatching, hsettled, hpending, _⟩ := hwork.engage hd hs
          exact ⟨hwatching, fun hp => absurd (hp.symm.trans (hpending.trans hcalm)) (by decide),
            fun _ => .inl hsettled⟩

/-- **Every step keeps the invariant.** -/
theorem upkeep_step {a b : Scene τ} (h : Upkeep settings rules a.session a.hand) (hab : Step a b) :
    Upkeep settings rules b.session b.hand := by
  cases hab with
  | mutate m proper inside =>
      dsimp only at h ⊢
      rw [perform_eq]
      cases hm : m.change _ with
      | none => exact h
      | some r =>
          obtain ⟨hlater, heffect⟩ := Mutation.effect h.watching.numbered proper hm
          exact upkeep_post h hlater heffect (inside _ _ hm)
  | openBatch => exact upkeep_openBatch h
  | closeBatch => exact upkeep_closeBatch h
  | dispatch event => exact upkeep_dispatch hd hs h event
  | markReady => exact upkeep_markReady hd hs h
  | setHidden hidden => exact upkeep_setHidden hd hs h hidden
  | clock now since =>
      exact ⟨h.watching.carry rfl h.watching.numbered, h.scheduled, h.settled⟩
  | ring instant => exact upkeep_ring h instant
  | perform front d back => exact upkeep_perform hd hs h

theorem upkeep_reachable {a : Scene τ} (h : Reachable settings a) :
    Upkeep settings rules a.session a.hand := by
  induction h with
  | init fresh started => exact upkeep_init hd hs fresh started
  | tail _ step ih => exact upkeep_step hd hs ih step

end

/-! ## Runs made of steps -/

namespace Reachable

theorem foldl_perform (ds : List Duty) : ∀ {s : Session τ}, Reachable settings ⟨s, ds⟩ →
    Reachable settings ⟨ds.foldl (Session.perform Hooks.idle) s, []⟩ := by
  induction ds with
  | nil => exact fun h => h
  | cons d r ih => exact fun h => ih (h.tail (.perform [] d r))

/-- Taking out the jobs of an instant and running them is a run of steps. -/
theorem runInstant (h : Reachable settings ⟨s, []⟩) (instant : Nat) :
    Reachable settings ⟨s.runInstant Hooks.idle instant, []⟩ := by
  -- the clock is set to the instant, the jobs are taken and done, and the clock is set again
  have hclock := h.tail (.clock instant s.timer.since)
  have hdone := foldl_perform _ (hclock.tail (.ring instant))
  exact hdone.tail (.clock _ s.timer.since)

theorem runRounds (rounds instant : Nat) : ∀ {s : Session τ}, Reachable settings ⟨s, []⟩ →
    Reachable settings ⟨s.runRounds Hooks.idle rounds instant, []⟩ := by
  induction rounds with
  | zero => exact fun h => h
  | succ n ih =>
      intro s h
      unfold Session.runRounds
      split
      · exact ih (h.runInstant _)
      · exact h

/-- So is running what is due now, -/
theorem runDue (h : Reachable settings ⟨s, []⟩) :
    Reachable settings ⟨s.runDue Hooks.idle, []⟩ :=
  h.runRounds _ _

/-- and so is letting time pass. -/
theorem advance (h : Reachable settings ⟨s, []⟩) (ms : Nat) :
    Reachable settings ⟨s.advance Hooks.idle ms, []⟩ :=
  (h.runRounds _ _).tail (.clock _ _)

/-- A batch is a run if what is done in it is one, also inside another batch. -/
theorem batch {α : Type} {activity : Session τ → Session τ × α}
    (hactivity : ∀ s, Reachable settings ⟨s, hand⟩ → Reachable settings ⟨(activity s).1, hand⟩)
    (h : Reachable settings ⟨s, hand⟩) :
    Reachable settings ⟨(s.batch Hooks.idle activity).1, hand⟩ := by
  have hdone := hactivity _ (h.tail .openBatch)
  unfold Session.batch
  dsimp only
  split
  · exact hdone.tail .closeBatch
  · exact hdone

end Reachable

/-! ## Nothing is lost -/

/-- A notice waits for its sweep, and the sweep will come: its job is in the timer, which is at
work, or it is in hand. -/
def SweepComing (s : Session τ) (hand : List Duty) : Prop :=
  s.pacer.pending = true ∧
    ((s.timer.running = true ∧
        ∃ j ∈ s.timer.jobs, j.id = debounceJob ∧ j.task = .sweep .debounced) ∨
      .sweep .debounced ∈ hand)

/-- Every marker is as the page calls for it, and a sweep would change none. -/
def UpToDate (settings : Settings.Layout) (rules : Rules) (page : Node) : Prop :=
  Settled rules page ∧ ∃ swept stats, sweepUnder settings page = .ok (swept, stats) ∧
    markers rules swept = markers rules page

/-- Settings under which the whole body is watched. -/
def bodySettings : Settings.Layout :=
  { contentSelectors := .list [] }

theorem describes_bodySettings : Describes bodySettings {} :=
  ⟨rfl, rfl, rfl, rfl, ⟨_, rfl⟩, ⟨_, rfl⟩⟩

/-- A session for a page with one block that holds a word and a sticker. -/
def wordSession : Session Unit where
  document.forest.page :=
    .element 0 ⟨rootName, []⟩
      [.element 1 ⟨"p", []⟩
        [.leaf 2 .plain "so", .element 3 ⟨"img", [("class", .words ["sticker-emoji"])]⟩ []]]
  document.forest.loose := []
  document.forest.nextId := 4
  document.ready := true
  settings := bodySettings
  sweeper := .page
  owned := true
  timer := Timer.idle .exact
  pacer := {}
  watcher := Watcher.under bodySettings
  log := []
  host := ()

theorem fresh_wordSession : Fresh bodySettings wordSession where
  under := rfl
  sweeper := rfl
  ready := rfl
  numbered := ⟨by decide, by decide⟩
  watcher := rfl
  calm := rfl
  own := fun _ h => absurd h List.not_mem_nil

end StickerPages.Live
