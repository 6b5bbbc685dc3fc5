import StickerPages.Proofs.Arrangements

/-!
# Which changes a session takes notice of

A session looks its regions up when it comes to watch its page (`Opened`): at once, if the page is
ready when the session is started, or when the page becomes ready. From then on they are numbers of
elements. Whatever is done to the page, the regions stay the same until the next start, so a change is
taken notice of if it matters and lies in one of those elements (`notices_iff`); whether an element
that has come into the page since then would be a region makes no difference.
-/

namespace StickerPages.Live

open Markup Layout Timing

variable {τ : Type} {keeps : Bool} {terms : Settings.Layout × Bool} {w : Bool × Nat}
  {s t : Session τ} {sweep : Session τ → Session τ × Bool} {f : Forest} {c : Change}

/-! ## Changes that matter -/

/-- A change calls for a sweep: nodes came or went, or it happened inside a block. -/
def Matters (tags : List String) (f : Forest) (c : Change) : Prop :=
  (∃ p, f.place? c.target = some p ∧ InBlock { blockTags := tags } p) ∨
    c.added ≠ [] ∨ c.removed ≠ []

theorem minds_iff (v : Watcher) : v.minds f c = true ↔ Matters v.blockTags f c := by
  have hblock (p : Place) :
      (closest? ({ blockTags := v.blockTags } : Rules).blockTags p).isSome = true ↔
        InBlock { blockTags := v.blockTags } p := closest?_isSome_iff p
  unfold Watcher.minds Matters
  cases hp : f.place? c.target with
  | none => simp
  | some p => simp [hblock, or_assoc]

/-- Where the observation is the watcher's own, what is heeded is what matters in its regions. -/
theorem heeds_iff {ready : Bool} {waits : Nat} (hk : Arranged terms ready waits s)
    (hwatched : Watched s) (cs : List Change) :
    s.document.observations.any (heeds s cs) = true ↔
      ∃ c ∈ cs, Observed s.watcher.roots s.document.forest c ∧
        Matters s.watcher.blockTags s.document.forest c := by
  have hmatching {o : Observation Observer} (hroots : o.roots = s.watcher.roots) (c : Change) :
      c ∈ o.matching s.document.forest cs ↔
        c ∈ cs ∧ Observed s.watcher.roots s.document.forest c := by
    simp [Observation.matching, Observed, hroots]
  constructor
  · intro h
    obtain ⟨o, ho, hheeds⟩ := List.any_eq_true.mp h
    rw [heeds, Bool.and_eq_true, beq_iff_eq, List.any_eq_true] at hheeds
    obtain ⟨hwho, c, hc, hminds⟩ := hheeds
    obtain ⟨hmem, hobs⟩ := (hmatching (hk.keeper o ho hwho).2 c).mp hc
    exact ⟨c, hmem, hobs, (minds_iff _).mp hminds⟩
  · rintro ⟨c, hc, hobs, hmatters⟩
    obtain ⟨o, ho, hwho⟩ := hwatched
    refine List.any_eq_true.mpr ⟨o, ho, ?_⟩
    rw [heeds, Bool.and_eq_true, beq_iff_eq, List.any_eq_true]
    exact ⟨hwho, c, (hmatching (hk.keeper o ho hwho).2 c).mpr ⟨hc, hobs⟩,
      (minds_iff _).mpr hmatters⟩

/-! ## Coming to watch -/

/-- A session is started and comes to watch its page. -/
inductive Opened (sweep : Session τ → Session τ × Bool) (s : Session τ) : Session τ → Prop where
  /-- The page is ready. -/
  | atOnce (sound : s.delays.2 = true) (ready : s.document.ready = true) :
      Opened sweep s (Move.start.make true (sweeping sweep) s)
  /-- The page is ready later. -/
  | later (sound : s.delays.2 = true) (loading : s.document.ready = false) {meanwhile : List Move}
      (quiet : ∀ m ∈ meanwhile, m ≠ .start ∧ m ≠ .stop ∧ m.announces = false) {m : Move}
      (announced : m.announces = true) :
      Opened sweep s (m.make true (sweeping sweep)
        (run true (sweeping sweep) s (.start :: meanwhile)))

/-- A session at work that watches the regions of its page as it is now. -/
structure Looking (s : Session τ) : Prop where
  running : s.timer.running = true
  watched : Watched s
  roots : s.watcher.roots = s.watcher.rootsOn s.document.forest

section

variable (hsweep : Tame sweep)

include hsweep

theorem engage_looking (hrunning : s.timer.running = true) :
    Looking (s.engage (sweeping sweep)) := by
  have hswept : (s.sweepNow (sweeping sweep) "load").1.timer.running = s.timer.running :=
    congrArg (·.2.2.2) (lookout_sweepNow hsweep "load" s)
  refine ⟨hswept.trans hrunning, ?_, ?_⟩
  · exact ⟨_, List.mem_append_right _ (List.mem_singleton_self _), rfl⟩
  · unfold Session.engage Session.connect Watcher.connect Watcher.disconnect
    dsimp only
    cases (s.sweepNow (sweeping sweep) "load").1.watcher.observation <;> rfl

theorem running_hearAll (event : String) (ls : List Listener) : ∀ s : Session τ,
    (ls.foldl (Session.hear (sweeping sweep) event) s).timer.running = s.timer.running := by
  have hswept (reason : String) (s : Session τ) :
      (s.sweepNow (sweeping sweep) reason).1.timer.running = s.timer.running :=
    congrArg (·.2.2.2) (lookout_sweepNow hsweep reason s)
  induction ls with
  | nil => exact fun _ => rfl
  | cons l r ih =>
      intro s
      refine (ih _).trans ?_
      by_cases hl : l = .ready
      · rw [hl]
        exact hswept "load" _
      · rcases hear_cases sweep event s hl with hsame | hcalled
        · rw [hsame]
        · rw [hcalled]
          exact hswept event s

/-- Who listens last comes to watch last. -/
theorem dispatch_looking {event : String} {ls : List Listener}
    (hls : s.document.listenersOf event = ls ++ [.ready]) (hrunning : s.timer.running = true) :
    Looking (s.dispatch (sweeping sweep) event).1 := by
  unfold Session.dispatch
  dsimp only
  rw [hls, List.foldl_append]
  exact engage_looking hsweep ((running_hearAll hsweep event ls s).trans hrunning)

/-- Until the next start or stop the regions are the same, if nobody is called for the page. -/
theorem lookout_run (ms : List Move) : ∀ {w : Bool × Nat} {s : Session τ}, Kept keeps terms w s →
    (∀ m ∈ ms, m ≠ .start ∧ m ≠ .stop ∧ (m.announces = true → w.2 = 0)) →
      lookout (run keeps (sweeping sweep) s ms) = lookout s := by
  induction ms with
  | nil => exact fun _ _ => rfl
  | cons m r ih =>
      intro w s hk hms
      obtain ⟨hstart, hstop, hnone⟩ := hms m List.mem_cons_self
      have hone := lookout_make hsweep keeps hstart hstop hk.silent_other
        fun ha => hk.silent_ready (hnone ha)
      refine (ih ((hk.make hsweep m).runDue hsweep) fun m' hm' => ?_).trans
        ((lookout_runDue hsweep _).trans hone)
      obtain ⟨hstart', hstop', hnone'⟩ := hms m' (List.mem_cons_of_mem m hm')
      exact ⟨hstart', hstop', fun ha => waitsAfter_none _ hstart (hnone' ha)⟩

theorem start_looking (sound : s.delays.2 = true) (ready : s.startPacing.1.document.ready = true) :
    Looking (Move.start.make true (sweeping sweep) s) := by
  have hmake : Move.start.make true (sweeping sweep) s =
      s.startPacing.1.engage (sweeping sweep) := by
    refine (start_eq (sweeping sweep) s).trans ?_
    rw [if_pos sound, if_pos ready]
  rw [hmake]
  exact engage_looking hsweep (running_startPacing s)

/-- The session that waits for its page: it is the last to be called. -/
theorem waiting_last (hk : Kept true terms w s) (sound : s.delays.2 = true)
    (loading : s.document.ready = false) {meanwhile : List Move}
    (quiet : ∀ m ∈ meanwhile, m ≠ .start ∧ m ≠ .stop ∧ m.announces = false) :
    ∃ ls, (run true (sweeping sweep) s (.start :: meanwhile)).document.listenersOf
        Session.readyEvent = ls ++ [.ready] ∧
      (run true (sweeping sweep) s (.start :: meanwhile)).timer.running = true ∧
      (run true (sweeping sweep) s (.start :: meanwhile)).document.ready = false := by
  have hmake : Move.start.make true (sweeping sweep) s = { s.startPacing.1 with
      document := s.startPacing.1.document.listen Session.readyEvent .ready } := by
    have hloading : s.startPacing.1.document.ready = false :=
      hk.startPacing.ready.trans (hk.ready.symm.trans loading)
    refine (start_eq (sweeping sweep) s).trans ?_
    rw [if_pos sound, if_neg (Bool.eq_false_iff.mp hloading)]
  -- nobody comes or goes meanwhile, so the one who was put last on the list is still its last
  have hlook : lookout (run true (sweeping sweep) s (.start :: meanwhile)) =
      lookout (Move.start.make true (sweeping sweep) s) := by
    refine (lookout_run hsweep meanwhile ((hk.make hsweep .start).runDue hsweep)
      fun m hm => ?_).trans (lookout_runDue hsweep _)
    obtain ⟨hstart, hstop, hsilent⟩ := quiet m hm
    exact ⟨hstart, hstop, fun ha => absurd (hsilent.symm.trans ha) (by decide)⟩
  rw [hmake] at hlook
  refine ⟨s.startPacing.1.document.listenersOf Session.readyEvent, ?_,
    (congrArg (·.2.2.2) hlook).trans (running_startPacing s), ?_⟩
  · refine (listenersOf_congr (congrArg (·.2.2.1) hlook) _).trans ?_
    rw [Document.listenersOf_listen, if_pos rfl]
  · have hkept := hk.run hsweep (.start :: meanwhile)
    have hfold (ms : List Move) : (∀ m ∈ ms, m.announces = false) → ∀ v : Bool × Nat,
        (ms.foldl (fun w m => m.waitsAfter (true && s.delays.2) w) v).1 = v.1 := by
      induction ms with
      | nil => exact fun _ _ => rfl
      | cons m r ih =>
          intro hms v
          exact (ih (fun m' hm' => hms m' (List.mem_cons_of_mem m hm')) _).trans
            (waitsAfter_fst _ (hms m List.mem_cons_self))
    refine hkept.ready.trans ((hfold _ ?_ w).trans (hk.ready.symm.trans loading))
    exact List.forall_mem_cons.mpr ⟨rfl, fun m hm => (quiet m hm).2.2⟩

/-- **Whoever has come to watch the page watches its regions as they are.** -/
theorem Opened.looking {opened : Session τ} (hk : Kept true terms w s)
    (h : Opened sweep s opened) :
    Looking opened ∧ ∃ w', w'.2 = 0 ∧ Kept true terms w' opened := by
  cases h with
  | atOnce sound ready =>
      have hready : w.1 = true := hk.ready.symm.trans ready
      refine ⟨start_looking hsweep sound (hk.startPacing.ready.trans hready), _, ?_,
        hk.make hsweep .start⟩
      simp [Move.waitsAfter, hready, hk.spent hready]
  | @later sound loading meanwhile quiet m announced =>
      obtain ⟨ls, hls, hrunning, hloading⟩ := waiting_last hsweep hk sound loading quiet
      refine ⟨?_, _, waitsAfter_announced _ announced,
        (hk.run hsweep (.start :: meanwhile)).make hsweep m⟩
      cases m with
      | markReady =>
          unfold Move.make Session.markReady
          dsimp only
          rw [if_neg (Bool.eq_false_iff.mp hloading)]
          exact dispatch_looking hsweep hls hrunning
      | event name =>
          have hname : name = Session.readyEvent := beq_iff_eq.mp announced
          rw [hname]
          exact dispatch_looking hsweep hls hrunning
      | start | stop | hide _ | change _ | batch _ | notice | pass _ => cases announced

/-! ## Taking notice -/

omit hsweep in
theorem notify_pending (hrunning : s.timer.running = true) :
    s.notify.pacer.pending = true ∧ s.notify.timer.has debounceJob = true := by
  rw [notify_eq hrunning]
  exact ⟨pending_noting _ _, has_put ..⟩

omit hsweep in
/-- A record that is told at once is one notice if it matters in a region, and else nothing. -/
theorem perform_cases {ready : Bool} {waits : Nat} (hk : Arranged terms ready waits t)
    (hwatched : Watched t) (hrunning : t.timer.running = true) (hbatch : t.document.waiting = none)
    {m : Mutation} (hm : m.change t.document.forest = some (f, c)) :
    let seen := Observed t.watcher.roots f c ∧ Matters t.watcher.blockTags f c
    (seen → (m.perform t).pacer.pending = true ∧ (m.perform t).timer.has debounceJob = true) ∧
      (¬ seen → (m.perform t).pacer = t.pacer ∧ (m.perform t).timer = t.timer) := by
  have hperform : m.perform t =
      Session.tell Hooks.idle { t with document := { t.document with forest := f } } [c] := by
    rw [perform_eq, hm]
    simp only [Session.post, Document.record, hbatch]
  have hheeds := heeds_iff (s := { t with document := { t.document with forest := f } })
    (hk.carry rfl) hwatched [c]
  simp only [List.mem_singleton, exists_eq_left] at hheeds
  rw [hperform, tell_eq]
  constructor
  · intro hseen
    rw [if_pos (hheeds.mpr hseen)]
    exact notify_pending hrunning
  · intro hnot
    rw [if_neg (mt hheeds.mp hnot)]
    exact ⟨rfl, rfl⟩

/-- **A change is taken notice of if it matters and lies in a region that was one when the session
came to watch the page**, whatever has been done to the page since; any other change leaves the pacer
and the timer as they are. -/
theorem notices_iff {s : Session τ} (hs : Untouched s) (early late : List Move)
    {opened : Session τ} (hopened : Opened sweep (run true (sweeping sweep) s early) opened)
    (hlate : ∀ m ∈ late, m ≠ .start ∧ m ≠ .stop) (m : Mutation)
    (hbatch : (run true (sweeping sweep) (opened.runDue (sweeping sweep)) late).document.waiting =
      none)
    (hm : m.change (run true (sweeping sweep) (opened.runDue (sweeping sweep)) late).document.forest =
      some (f, c)) :
    let t := run true (sweeping sweep) (opened.runDue (sweeping sweep)) late
    let seen := Observed (opened.watcher.rootsOn opened.document.forest) f c ∧
      Matters opened.watcher.blockTags f c
    (seen → (m.perform t).pacer.pending = true ∧ (m.perform t).timer.has debounceJob = true) ∧
      (¬ seen → (m.perform t).pacer = t.pacer ∧ (m.perform t).timer = t.timer) := by
  intro t seen
  obtain ⟨hlooking, w', hnone, hkept⟩ := hopened.looking hsweep ((hs.kept true).run hsweep early)
  have hdue := hkept.runDue hsweep
  have hlook : lookout t = lookout opened :=
    (lookout_run hsweep late hdue fun m hm =>
      ⟨(hlate m hm).1, (hlate m hm).2, fun _ => hnone⟩).trans (lookout_runDue hsweep opened)
  have hwatcher : t.watcher = opened.watcher := congrArg (·.1) hlook
  have hwatched : Watched t := by
    have hobservations : t.document.observations = opened.document.observations :=
      congrArg (·.2.1) hlook
    rw [Watched, hobservations]
    exact hlooking.watched
  have hcases := perform_cases (hdue.run hsweep late).toArranged hwatched
    ((congrArg (·.2.2.2) hlook).trans hlooking.running) hbatch hm
  rw [hwatcher, hlooking.roots] at hcases
  exact hcases

end

/-- The regions of a page are its articles. -/
def articleSettings : Settings.Layout := { contentSelectors := .list [.text "article"] }

/-- A session for a page with one article. -/
def articleSession : Session Unit where
  document.forest.page :=
    .element 0 ⟨rootName, []⟩
      [.element 1 ⟨"body", []⟩
        [.element 2 ⟨"article", []⟩ [.element 3 ⟨"p", []⟩ [.leaf 4 .plain "x"]]]]
  document.forest.loose := []
  document.forest.nextId := 5
  document.ready := true
  settings := articleSettings
  sweeper := .page
  owned := true
  timer := Timer.idle .exact
  pacer := {}
  watcher := Watcher.under articleSettings
  log := []
  host := ()

theorem untouched_articleSession : Untouched articleSession where
  pacer := rfl
  unobserved := rfl
  observers := fun _ h => absurd h List.not_mem_nil
  listeners := fun _ _ h => absurd h List.not_mem_nil
  jobs := fun _ h => absurd h List.not_mem_nil
  owned := fun _ => ⟨rfl, rfl⟩
  shared := fun h => absurd h (by decide)

/-- The session comes to watch the page at once. -/
def articleOpened : Session Unit := Move.start.make true (sweeping unmoved) articleSession

/-- The article that was there at the start loses its text, and that is taken notice of. -/
theorem notices_iff_articleSession :
    Tame (unmoved : Session Unit → _) ∧ Untouched articleSession ∧
      Opened unmoved (run true (sweeping unmoved) articleSession []) articleOpened ∧
      (∀ m ∈ [Move.hide false], m ≠ .start ∧ m ≠ .stop) ∧
      (run true (sweeping unmoved) (articleOpened.runDue (sweeping unmoved))
        [.hide false]).document.waiting = none ∧
      ∃ f c, (Mutation.remove 4).change (run true (sweeping unmoved)
          (articleOpened.runDue (sweeping unmoved)) [.hide false]).document.forest = some (f, c) ∧
        ((Mutation.remove 4).perform (run true (sweeping unmoved)
          (articleOpened.runDue (sweeping unmoved)) [.hide false])).pacer.pending = true := by
  have hopened : Opened unmoved (run true (sweeping unmoved) articleSession []) articleOpened :=
    .atOnce (by decide) rfl
  have hlate : ∀ m ∈ [Move.hide false], m ≠ .start ∧ m ≠ .stop := by simp
  have hbatch : (run true (sweeping unmoved) (articleOpened.runDue (sweeping unmoved))
      [.hide false]).document.waiting = none := by decide +kernel
  have hroots : articleOpened.watcher.rootsOn articleOpened.document.forest = [2] := by
    decide +kernel
  have hremoved : ((Mutation.remove 4).change (run true (sweeping unmoved)
      (articleOpened.runDue (sweeping unmoved)) [.hide false]).document.forest).map
        (fun r => (r.1.contains 2 r.2.target, r.2.removed)) = some (true, [4]) := by decide +kernel
  obtain ⟨⟨f, c⟩, hm, heq⟩ := Option.map_eq_some_iff.mp hremoved
  have hcontains : f.contains 2 c.target = true := congrArg Prod.fst heq
  have hlost : c.removed = [4] := congrArg Prod.snd heq
  have hseen : Observed (articleOpened.watcher.rootsOn articleOpened.document.forest) f c ∧
      Matters articleOpened.watcher.blockTags f c :=
    ⟨⟨2, hroots ▸ List.mem_cons_self, hcontains⟩, .inr (.inr (by simp [hlost]))⟩
  have hnoticed := notices_iff tame_unmoved untouched_articleSession [] [.hide false] hopened hlate
    (.remove 4) hbatch hm
  exact ⟨tame_unmoved, untouched_articleSession, hopened, hlate, hbatch, f, c, hm,
    (hnoticed.1 hseen).1⟩

/-- An article that has come into the page since the start is a region, and nodes that come into it
are not taken notice of. -/
theorem new_region_unnoticed :
    let t := run true Hooks.idle articleSession
      [.start, .change (.replaceChildren 1 "<article><p>y</p></article>"), .event "pjax:complete"]
    t.watcher.observation.isSome = true ∧ t.watcher.areas? t.document.forest = some [6] ∧
      ((Mutation.append 7 "z").change t.document.forest).map
        (fun r => (r.2.added, r.1.contains 6 r.2.target)) = some ([10], true) ∧
      ((Mutation.append 7 "z").perform t).pacer.pending = false := by
  decide +kernel

end StickerPages.Live
