import Mathlib.Data.List.Induction
import StickerPages.Proofs.Timers
import StickerPages.Proofs.Upkeep

/-!
# Whatever is done to a session

A session is started and stopped, told of changes and events, and time passes; each of these is a
`Move`, and any sequence of moves is a run. `keeps` says what is started: a session that watches its
page, or its pacer alone.

Most of what happens inside a move leaves a session's arrangements as they are, the page, the reports
and the host's memory excepted. `standing` is what is left, and `Stirred` is the rule: a move that
does not start or stop anything gives a notice, or it gives none. So an invariant that is about
`standing` has to be looked at for notices, counts, starts and stops only, and for jobs that are
taken out of the timer (`runRounds_keeps`).
-/

namespace StickerPages.Live

open Markup Layout Timing

variable {τ : Type} {s s' : Session τ}

/-! ## Moves and runs -/

/-- What can be done to a session from outside. -/
inductive Move where
  | start
  | stop
  | markReady
  | event (name : String)
  | hide (hidden : Bool)
  | change (m : Mutation)
  | batch (ms : List Mutation)
  | notice
  | pass (ms : Nat)

def Move.make (keeps : Bool) (hooks : Hooks τ) (s : Session τ) : Move → Session τ
  | .start => (if keeps then s.start hooks else s.startPacing).1
  | .stop => if keeps then s.stop else s.stopPacing
  | .markReady => s.markReady hooks
  | .event name => (s.dispatch hooks name).1
  | .hide hidden => s.setHidden hooks hidden
  | .change m => m.perform s
  | .batch ms => (s.batch hooks fun s => (ms.foldl (fun s m => m.perform s) s, ())).1
  | .notice => s.notify
  | .pass ms => s.advance hooks ms

/-- The move tells those who wait that the page is ready. -/
def Move.announces : Move → Bool
  | .markReady => true
  | .event name => name == Session.readyEvent
  | _ => false

/-- Some moves, one after the other, each with whatever is due then. -/
def run (keeps : Bool) (hooks : Hooks τ) (s : Session τ) (ms : List Move) : Session τ :=
  ms.foldl (fun s m => (m.make keeps hooks s).runDue hooks) s

theorem run_append (keeps : Bool) (hooks : Hooks τ) (s : Session τ) (ms ns : List Move) :
    run keeps hooks s (ms ++ ns) = run keeps hooks (run keeps hooks s ms) ns :=
  List.foldl_append

/-- What holds after each of some steps, step by step: while it holds, an invariant does, and under
the invariant it goes on holding just when the next step is allowed. -/
theorem prefixes_iff {ι : Type} {I P : List ι → Prop} {Q : List ι → ι → Prop} (steps : List ι)
    (hnil : I []) (hholds : ∀ l, I l → P l)
    (hnext : ∀ l a, l ++ [a] <+: steps → I l → (P (l ++ [a]) → Q l a) ∧ (Q l a → I (l ++ [a]))) :
    (∀ l, l <+: steps → P l) ↔ ∀ l a, l ++ [a] <+: steps → Q l a := by
  constructor
  · intro hP
    have hI (l : List ι) : l <+: steps → I l := by
      induction l using List.reverseRecOn with
      | nil => exact fun _ => hnil
      | append_singleton l a ih =>
          -- what holds after the step allows it, and then the invariant goes on
          intro hp
          obtain ⟨hallowed, hgoes⟩ := hnext l a hp (ih ((List.prefix_append l [a]).trans hp))
          exact hgoes (hallowed (hP _ hp))
    intro l a hp
    exact (hnext l a hp (hI l ((List.prefix_append l [a]).trans hp))).1 (hP _ hp)
  · intro hQ l hp
    refine hholds l ?_
    induction l using List.reverseRecOn with
    | nil => exact hnil
    | append_singleton l a ih =>
        exact (hnext l a hp (ih ((List.prefix_append l [a]).trans hp))).2 (hQ l a hp)

/-! ## What most moves leave alone -/

/-- All of a session but the page, what waits to be told, the reports and the host's memory. -/
def standing (s : Session τ) :=
  (s.settings, s.owned, s.timer, s.pacer, s.watcher, s.document.ready, s.document.listeners,
    s.document.observations)

/-- Nothing happened to a session's arrangements but a notice at most, and that only if there may be
one. -/
inductive Stirred (may : Prop) (s s' : Session τ) : Prop where
  | still (same : standing s' = standing s)
  | noticed (allowed : may) (same : standing s' = standing s.notify)

/-- A sweeping that does nothing to its session but rewrite the page and give notice. -/
def Tame (sweep : Session τ → Session τ × Bool) : Prop := ∀ s, Stirred True s (sweep s).1

/-- A sweeping that does nothing. -/
def unmoved (s : Session τ) : Session τ × Bool := (s, true)

theorem tame_unmoved : Tame (unmoved : Session τ → Session τ × Bool) := fun _ => .still rfl

/-- A host that sweeps, and does nothing else. -/
def sweeping (sweep : Session τ → Session τ × Bool) : Hooks τ := { Hooks.idle with sweep }

/-- The session's watcher is among the observers of the page. -/
def Watched (s : Session τ) : Prop := ∃ o ∈ s.document.observations, o.who = .keeper

theorem standing_notify (same : standing s' = standing s) :
    standing s'.notify = standing s.notify := by
  simp only [standing, Prod.mk.injEq] at same
  obtain ⟨h1, h2, h3, h4, h5, h6, h7, h8⟩ := same
  simp only [standing, Session.notify, Session.debounce, h1, h2, h3, h4, h5, h6, h7, h8]

theorem notify_asleep (h : s.timer.running = false) : s.notify = s := by
  simp [Session.notify, Pacer.notify, h]

theorem watched_congr (same : standing s' = standing s) : Watched s' ↔ Watched s := by
  simp only [standing, Prod.mk.injEq] at same
  obtain ⟨_, _, _, _, _, _, _, h8⟩ := same
  rw [Watched, h8, Watched]

/-- What came before and changed nothing need not be looked at. -/
theorem Stirred.since {s₁ : Session τ} (h : Stirred (Watched s₁) s₁ s')
    (same : standing s₁ = standing s) : Stirred (Watched s) s s' := by
  rcases h with h | ⟨hwatched, h⟩
  · exact .still (h.trans same)
  · exact .noticed ((watched_congr same).mp hwatched) (h.trans (standing_notify same))

/-! ## Telling -/

/-- Telling of changes is one notice, or nothing, whether or not the session is at work. -/
theorem tell_eq (s : Session τ) (cs : List Change) :
    s.tell Hooks.idle cs =
      if s.document.observations.any (heeds s cs) then s.notify else s := by
  cases hrun : s.timer.running with
  | true => exact tell_idle hrun cs
  | false =>
      have hfold (os : List (Observation Observer)) :
          os.foldl (Session.tellOne Hooks.idle cs) s = s := by
        induction os with
        | nil => rfl
        | cons o r ih => rw [List.foldl_cons, tellOne_idle, notify_asleep hrun, ite_self, ih]
      rw [Session.tell, hfold, notify_asleep hrun, ite_self]

theorem tell_none (s : Session τ) : s.tell Hooks.idle [] = s := by
  rw [tell_eq, if_neg]
  simp [heeds, Observation.matching]

theorem watched_of_heeds {cs : List Change} (h : s.document.observations.any (heeds s cs) = true) :
    Watched s := by
  obtain ⟨o, ho, hheeds⟩ := List.any_eq_true.mp h
  rw [heeds, Bool.and_eq_true, beq_iff_eq] at hheeds
  exact ⟨o, ho, hheeds.1⟩

theorem stirred_tell (s : Session τ) (cs : List Change) :
    Stirred (Watched s) s (s.tell Hooks.idle cs) := by
  rw [tell_eq]
  split
  · rename_i h
    exact .noticed (watched_of_heeds h) rfl
  · exact .still rfl

/-! ## Changes -/

theorem stirred_post (s : Session τ) (f : Forest) (c : Change) :
    Stirred (Watched s) s (s.post Hooks.idle f c) := by
  unfold Session.post Document.record
  cases s.document.waiting with
  | some cs =>
      dsimp only
      rw [tell_none]
      exact .still rfl
  | none =>
      exact (stirred_tell { s with document := { s.document with forest := f } } [c]).since rfl

theorem stirred_perform (m : Mutation) (s : Session τ) : Stirred (Watched s) s (m.perform s) := by
  rw [perform_eq]
  split
  · exact stirred_post s _ _
  · exact .still rfl

/-- While a batch is open nobody is told. -/
theorem perform_waiting (m : Mutation) (h : s.document.waiting.isSome = true) :
    standing (m.perform s) = standing s ∧ (m.perform s).document.waiting.isSome = true := by
  rw [perform_eq]
  split
  · obtain ⟨cs, hcs⟩ := Option.isSome_iff_exists.mp h
    simp only [Session.post, Document.record, hcs, tell_none]
    exact ⟨rfl, rfl⟩
  · exact ⟨rfl, h⟩

theorem performs_waiting (ms : List Mutation) : ∀ s : Session τ, s.document.waiting.isSome = true →
    standing (ms.foldl (fun s m => m.perform s) s) = standing s := by
  induction ms with
  | nil => exact fun s _ => rfl
  | cons m r ih =>
      intro s h
      obtain ⟨hsame, hwaiting⟩ := perform_waiting m h
      exact (ih _ hwaiting).trans hsame

/-- **A batch gives one notice at most**, when it is closed. -/
theorem stirred_batch (sweep : Session τ → Session τ × Bool) (ms : List Mutation) (s : Session τ) :
    Stirred (Watched s) s
      (s.batch (sweeping sweep) fun s => (ms.foldl (fun s m => m.perform s) s, ())).1 := by
  have hopen : s.document.openBatch.1.waiting.isSome = true := by
    unfold Document.openBatch
    cases h : s.document.waiting with
    | some cs => simp [h]
    | none => rfl
  -- while the batch is open nobody is told, so all there can be is a notice at its end
  have hdone := performs_waiting ms { s with document := s.document.openBatch.1 } hopen
  have hsame : standing { s with document := s.document.openBatch.1 } = standing s := by
    unfold Document.openBatch
    cases s.document.waiting <;> rfl
  unfold Session.batch
  dsimp only
  split
  · exact (stirred_tell _ _).since (hdone.trans hsame)
  · exact .still (hdone.trans hsame)

/-! ## Sweeps -/

/-- A sweep counts, and then it gives notice or none. -/
theorem stirred_sweepNow {sweep : Session τ → Session τ × Bool} (hsweep : Tame sweep)
    (reason : String) (s : Session τ) :
    Stirred True { s with pacer := s.pacer.count reason }
      (s.sweepNow (sweeping sweep) reason).1 := by
  unfold Session.sweepNow
  dsimp only
  split
  · split
    · exact .still rfl
    · exact .still rfl
  · have htame := hsweep { s with pacer := s.pacer.count reason }
    unfold sweeping
    dsimp only
    split
    · rename_i hswept
      rw [hswept] at htame
      exact htame
    · rename_i hswept
      rw [hswept] at htame
      rcases htame with h | ⟨_, h⟩
      · exact .still h
      · exact .noticed trivial h

/-- Whoever does not wait for the page sweeps when he is called, or does nothing. -/
theorem hear_cases (sweep : Session τ → Session τ × Bool) (event : String) (s : Session τ)
    {l : Listener} (hl : l ≠ .ready) :
    s.hear (sweeping sweep) event l = s ∨
      s.hear (sweeping sweep) event l = (s.sweepNow (sweeping sweep) event).1 := by
  cases l with
  | ready => exact absurd rfl hl
  | navigation => exact .inr rfl
  | visibility =>
      unfold Session.hear
      dsimp only
      split
      · exact .inl rfl
      · exact .inr rfl
  | host name => exact .inl rfl

/-! ## Jobs -/

/-- What is kept when jobs are taken out and done is kept by whole rounds of this. `Q` says what the
jobs can be. -/
theorem runRounds_keeps {P : Session τ → Prop} {Q : Duty → Prop} {hooks : Hooks τ}
    (htimer : ∀ {s : Session τ} {t : Timer Duty}, t.running = s.timer.running →
      t.jobs ⊆ s.timer.jobs → P s → P { s with timer := t })
    (hjobs : ∀ {s : Session τ}, P s → ∀ j ∈ s.timer.jobs, Q j.task)
    (hperform : ∀ {s : Session τ} {d : Duty}, Q d → P s → P (s.perform hooks d))
    (instant rounds : Nat) :
    ∀ {s : Session τ}, P s → P (s.runRounds hooks rounds instant) := by
  have hhand (ds : List Duty) : (∀ d ∈ ds, Q d) → ∀ {s : Session τ}, P s →
      P (ds.foldl (Session.perform hooks) s) := by
    induction ds with
    | nil => exact fun _ _ h => h
    | cons d r ih =>
        intro hds s h
        exact ih (fun e he => hds e (List.mem_cons_of_mem d he))
          (hperform (hds d List.mem_cons_self) h)
  induction rounds with
  | zero => exact fun h => h
  | succ n ih =>
      intro s h
      rw [Session.runRounds]
      split
      · refine ih (htimer rfl (fun j hj => hj) (hhand _ ?_ (htimer rfl ?_ h)))
        · intro d hd
          obtain ⟨j, hj, rfl⟩ := List.mem_map.mp hd
          exact hjobs h j ((Timer.mem_takeDue _).mp hj).1
        · intro j hj
          exact ((Timer.mem_takeDue_left _).mp hj).1
      · exact h

theorem runDue_keeps {P : Session τ → Prop} {Q : Duty → Prop} {hooks : Hooks τ}
    (htimer : ∀ {s : Session τ} {t : Timer Duty}, t.running = s.timer.running →
      t.jobs ⊆ s.timer.jobs → P s → P { s with timer := t })
    (hjobs : ∀ {s : Session τ}, P s → ∀ j ∈ s.timer.jobs, Q j.task)
    (hperform : ∀ {s : Session τ} {d : Duty}, Q d → P s → P (s.perform hooks d)) (h : P s) :
    P (s.runDue hooks) :=
  runRounds_keeps htimer hjobs hperform _ _ h

theorem advance_keeps {P : Session τ → Prop} {Q : Duty → Prop} {hooks : Hooks τ}
    (htimer : ∀ {s : Session τ} {t : Timer Duty}, t.running = s.timer.running →
      t.jobs ⊆ s.timer.jobs → P s → P { s with timer := t })
    (hjobs : ∀ {s : Session τ}, P s → ∀ j ∈ s.timer.jobs, Q j.task)
    (hperform : ∀ {s : Session τ} {d : Duty}, Q d → P s → P (s.perform hooks d)) (h : P s)
    (ms : Nat) : P (s.advance hooks ms) :=
  htimer rfl (fun _ hj => hj) (runRounds_keeps htimer hjobs hperform _ _ h)

/-! ## Watching and listening

What the session observes and who listens changes with its starts and stops, and when someone is
called who waited for the page. -/

def lookout (s : Session τ) :=
  (s.watcher, s.document.observations, s.document.listeners, s.timer.running)

theorem running_notify (s : Session τ) : s.notify.timer.running = s.timer.running := by
  cases hrun : s.timer.running with
  | false => rw [notify_asleep hrun, hrun]
  | true =>
      rw [notify_eq hrun]
      exact hrun

theorem lookout_retimed {t : Timer Duty} (h : t.running = s.timer.running) :
    lookout { s with timer := t } = lookout s := by
  rw [lookout, h, lookout]

theorem lookout_stirred {may : Prop} (h : Stirred may s s') : lookout s' = lookout s := by
  have hstanding {u v : Session τ} (same : standing u = standing v) : lookout u = lookout v := by
    simp only [standing, Prod.mk.injEq] at same
    obtain ⟨_, _, h3, _, h5, _, h7, h8⟩ := same
    rw [lookout, h3, h5, h7, h8, lookout]
  rcases h with h | ⟨_, h⟩
  · exact hstanding h
  · exact (hstanding h).trans (congrArg (fun b => (_, _, _, b)) (running_notify s))

section

variable {sweep : Session τ → Session τ × Bool} (hsweep : Tame sweep)

include hsweep

theorem lookout_sweepNow (reason : String) (s : Session τ) :
    lookout (s.sweepNow (sweeping sweep) reason).1 = lookout s :=
  (lookout_stirred (stirred_sweepNow hsweep reason s)).trans rfl

theorem lookout_perform (d : Duty) (s : Session τ) :
    lookout (s.perform (sweeping sweep) d) = lookout s := by
  cases d with
  | host => rfl
  | sweep task =>
      cases task with
      | debounced => exact (lookout_sweepNow hsweep "debounce" _).trans rfl
      | delayed => exact lookout_sweepNow hsweep "delayed" s

theorem lookout_runDue (s : Session τ) : lookout (s.runDue (sweeping sweep)) = lookout s :=
  runDue_keeps (P := fun u => lookout u = lookout s) (Q := fun _ => True)
    (fun hr _ h => (lookout_retimed hr).trans h) (fun _ _ _ => trivial)
    (fun _ h => (lookout_perform hsweep _ _).trans h) rfl

theorem lookout_advance (ms : Nat) (s : Session τ) :
    lookout (s.advance (sweeping sweep) ms) = lookout s :=
  advance_keeps (P := fun u => lookout u = lookout s) (Q := fun _ => True)
    (fun hr _ h => (lookout_retimed hr).trans h) (fun _ _ _ => trivial)
    (fun _ h => (lookout_perform hsweep _ _).trans h) rfl ms

theorem lookout_dispatch {event : String} (h : .ready ∉ s.document.listenersOf event) :
    lookout (s.dispatch (sweeping sweep) event).1 = lookout s := by
  have hfold (ls : List Listener) : .ready ∉ ls → ∀ s : Session τ,
      lookout (ls.foldl (Session.hear (sweeping sweep) event) s) = lookout s := by
    induction ls with
    | nil => exact fun _ _ => rfl
    | cons l r ih =>
        intro hls s
        rw [List.mem_cons, not_or] at hls
        refine (ih hls.2 _).trans ?_
        rcases hear_cases sweep event s (Ne.symm hls.1) with hsame | hswept
        · rw [hsame]
        · rw [hswept]
          exact lookout_sweepNow hsweep event s
  exact hfold _ h s

/-- **What is observed stays the same between a start and a stop**, unless somebody is called who
waits for the page. -/
theorem lookout_make (keeps : Bool) {m : Move} (hstart : m ≠ .start) (hstop : m ≠ .stop)
    (hother : ∀ e, e ≠ Session.readyEvent → .ready ∉ s.document.listenersOf e)
    (hready : m.announces = true → .ready ∉ s.document.listenersOf Session.readyEvent) :
    lookout (m.make keeps (sweeping sweep) s) = lookout s := by
  cases m with
  | start => exact absurd rfl hstart
  | stop => exact absurd rfl hstop
  | markReady =>
      unfold Move.make Session.markReady
      dsimp only
      split
      · rfl
      · exact (lookout_dispatch hsweep (s := { s with
          document := { s.document with ready := true } }) (hready rfl)).trans rfl
  | event name =>
      by_cases hname : name = Session.readyEvent
      · exact lookout_dispatch hsweep (hname ▸ hready (beq_iff_eq.mpr hname))
      · exact lookout_dispatch hsweep (hother name hname)
  | hide hidden =>
      exact (lookout_dispatch hsweep (s := { s with
        document := { s.document with hidden } }) (hother _ (by decide))).trans rfl
  | change m => exact lookout_stirred (stirred_perform m s)
  | batch ms => exact lookout_stirred (stirred_batch sweep ms s)
  | notice => exact lookout_stirred (.noticed trivial rfl)
  | pass ms => exact lookout_advance hsweep ms s

end

theorem startPacing_watcher (s : Session τ) : s.startPacing.1.watcher = s.watcher := by
  unfold Session.startPacing
  dsimp only
  split
  · obtain ⟨ls, listening, hsub⟩ := subscribe_eq { s with
      pacer := (Pacer.start s.delays.1 Duty.sweep (s.pacer, s.timer)).1
      timer := (Pacer.start s.delays.1 Duty.sweep (s.pacer, s.timer)).2 }
    rw [hsub]
    rfl
  · rfl

theorem stopPacing_watcher (s : Session τ) : s.stopPacing.watcher = s.watcher := by
  unfold Session.stopPacing Session.unsubscribe
  split <;> rfl

end StickerPages.Live
