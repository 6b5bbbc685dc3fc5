import StickerPages.Proofs.Changes
import StickerPages.Live.Session

/-!
# Batches lose nothing and repeat nothing

A program changes a document, opens batches inside batches and may be broken off anywhere. The
document keeps one list of waiting records for all of this, and a mark of whether a batch is open. What
it ought to do can be said without either. Inside a batch changes are made and their records put
down, and batches inside it are nothing but their bodies (`Activity.held`). Outside, everyone is told in
rounds: of each change at once, and of each batch at its end, whether it was completed or broken off
(`Activity.told`).

The invariant is that of the open batch: after any activity the list holds what it held before, and
behind it the records of that activity (`run_held`). So whole programs run as they ought to
(`run_told`). Callbacks are not to change the page, or to leave a batch open; apart from that they may
do anything, also connect and disconnect observations.
-/

namespace StickerPages.Live

variable {τ : Type}

/-! ## Programs -/

/-- What a program does with a document. -/
inductive Activity (τ : Type) where
  /-- The end, by itself or by a failure. -/
  | stop (completed : Bool)
  | change (m : Mutation)
  | observe (who : Observer) (roots : List Nat)
  | disconnect (key : Nat)
  /-- The rest depends on what the session is like. -/
  | look (rest : Session τ → Activity τ)
  /-- The rest depends on whether the first part was completed. -/
  | andThen (first : Activity τ) (rest : Bool → Activity τ)
  | batch (body : Activity τ)

/-- The change can be refused, and the program is broken off then. -/
def Mutation.refusable : Mutation → Bool
  | .setText .. => true
  | _ => false

/-- Makes a change; the answer says whether it was not refused. -/
def Mutation.tried (hooks : Hooks τ) (s : Session τ) : Mutation → Session τ × Bool
  | .append t markup => ((s.append hooks t markup).1, true)
  | .insert t index markup => ((s.insert hooks t index markup).1, true)
  | .replaceChildren t markup => ((s.replaceChildren hooks t markup).1, true)
  | .remove t => (s.remove hooks t, true)
  | .setText t text =>
    match s.setText hooks t text with
    | some (s, _) => (s, true)
    | none => (s, false)

/-- The session with other records waiting, or no batch open. -/
def Session.withWaiting (s : Session τ) (waiting : Option (List Change)) : Session τ :=
  { s with document := { s.document with waiting } }

namespace Activity

/-- Runs an activity; the answer says whether it was completed. Nobody sees the records that wait. -/
def run (hooks : Hooks τ) : Activity τ → Session τ → Session τ × Bool
  | .stop completed, s => (s, completed)
  | .change m, s => m.tried hooks s
  | .observe who roots, s => ({ s with document := (s.document.observe who roots).1 }, true)
  | .disconnect key, s => ({ s with document := s.document.disconnect key }, true)
  | .look rest, s => (rest (s.withWaiting none)).run hooks s
  | .andThen a rest, s => (rest (a.run hooks s).2).run hooks (a.run hooks s).1
  | .batch a, s => s.batch hooks (a.run hooks)

/-- The records of the changes that are made while an activity runs, in their order. -/
def made (hooks : Hooks τ) : Activity τ → Session τ → List Change
  | .change m, s => ((m.change s.document.forest).map (·.2)).toList
  | .look rest, s => (rest (s.withWaiting none)).made hooks s
  | .andThen a rest, s => a.made hooks s ++ (rest (a.run hooks s).2).made hooks (a.run hooks s).1
  | .batch a, s => a.made hooks { s with document := s.document.openBatch.1 }
  | _, _ => []

end Activity

/-! ## What they ought to come to -/

/-- A moment at which everyone is told, and of which changes. -/
structure Round (τ : Type) where
  session : Session τ
  records : List Change

namespace Round

/-- Who is called and of which records he is told: each observation once at most, of the records whose
target lies in one of its roots now. -/
def calls (r : Round τ) : List (Observation Observer × List Change) :=
  (r.session.document.observations.map fun o =>
    (o, o.matching r.session.document.forest r.records)).filter fun call => !call.2.isEmpty

/-- What one does who is called. -/
def answer (hooks : Hooks τ) (s : Session τ) (call : Observation Observer × List Change) :
    Session τ :=
  match call.1.who with
  | .keeper => if call.2.any (s.watcher.minds s.document.forest) then s.notify else s
  | .host _ | .watcher .. => hooks.told call.1 call.2 s

/-- The session when all have been called. -/
def answered (hooks : Hooks τ) (r : Round τ) : Session τ :=
  r.calls.foldl (answer hooks) r.session

end Round

/-- What an activity inside a batch comes to. -/
structure Held (τ : Type) where
  session : Session τ
  records : List Change
  completed : Bool

/-- What an activity outside batches comes to. -/
structure Told (τ : Type) where
  session : Session τ
  rounds : List (Round τ)
  completed : Bool

namespace Activity

/-- Inside a batch nobody is told. -/
def held : Activity τ → Session τ → Held τ
  | .stop completed, s => ⟨s, [], completed⟩
  | .change m, s =>
    match m.change s.document.forest with
    | some (f, c) => ⟨s.withForest f, [c], true⟩
    | none => ⟨s, [], !m.refusable⟩
  | .observe who roots, s => ⟨{ s with document := (s.document.observe who roots).1 }, [], true⟩
  | .disconnect key, s => ⟨{ s with document := s.document.disconnect key }, [], true⟩
  | .look rest, s => (rest s).held s
  | .andThen a rest, s =>
    let first := a.held s
    let second := (rest first.completed).held first.session
    ⟨second.session, first.records ++ second.records, second.completed⟩
  | .batch a, s => a.held s

/-- Outside batches everyone is told of each change at once, and of each batch at its end. -/
def told (hooks : Hooks τ) : Activity τ → Session τ → Told τ
  | .stop completed, s => ⟨s, [], completed⟩
  | .change m, s =>
    match m.change s.document.forest with
    | some (f, c) =>
      let round : Round τ := ⟨s.withForest f, [c]⟩
      ⟨round.answered hooks, [round], true⟩
    | none => ⟨s, [], !m.refusable⟩
  | .observe who roots, s => ⟨{ s with document := (s.document.observe who roots).1 }, [], true⟩
  | .disconnect key, s => ⟨{ s with document := s.document.disconnect key }, [], true⟩
  | .look rest, s => (rest s).told hooks s
  | .andThen a rest, s =>
    let first := a.told hooks s
    let second := (rest first.completed).told hooks first.session
    ⟨second.session, first.rounds ++ second.rounds, second.completed⟩
  | .batch a, s =>
    let body := a.held s
    let round : Round τ := ⟨body.session, body.records⟩
    ⟨round.answered hooks, [round], body.completed⟩

end Activity

/-- Callbacks leave the page alone and leave no batch open. -/
structure Hooks.Quiet (hooks : Hooks τ) : Prop where
  forest : ∀ o cs s, (hooks.told o cs s).document.forest = s.document.forest
  waiting : ∀ o cs s, s.document.waiting = none → (hooks.told o cs s).document.waiting = none

/-- The host puts down in a book of what it is told. -/
def Hooks.Notes (hooks : Hooks τ) (book : τ → List (Observation Observer × List Change)) : Prop :=
  ∀ o cs s, book (hooks.told o cs s).host = book s.host ++ [(o, cs)]

variable {hooks : Hooks τ} {s : Session τ} {cs : List Change}

/-! ## Telling -/

theorem Session.withWaiting_self (h : s.document.waiting = none) : s.withWaiting none = s := by
  unfold Session.withWaiting
  rw [← h]

theorem Hooks.Quiet.answer (hquiet : hooks.Quiet) (s : Session τ)
    (call : Observation Observer × List Change) :
    (Round.answer hooks s call).document.forest = s.document.forest ∧
      (s.document.waiting = none → (Round.answer hooks s call).document.waiting = none) := by
  obtain ⟨o, cs⟩ := call
  unfold Round.answer
  cases hwho : o.who with
  | keeper =>
      dsimp only
      split
      · exact ⟨rfl, id⟩
      · exact ⟨rfl, id⟩
  | _ => exact ⟨hquiet.forest o cs s, hquiet.waiting o cs s⟩

/-- One observer is called, or he has nothing to be told. -/
theorem tellOne_eq (hooks : Hooks τ) (cs : List Change) (s : Session τ) (o : Observation Observer) :
    s.tellOne hooks cs o = if (o.matching s.document.forest cs).isEmpty then s else
      Round.answer hooks s (o, o.matching s.document.forest cs) := by
  unfold Session.tellOne Round.answer
  cases o.matching s.document.forest cs <;> rfl

/-- **Telling is calling** everyone once at most, as the page stands. -/
theorem tell_eq_answered (hquiet : hooks.Quiet) (s : Session τ) (cs : List Change) :
    s.tell hooks cs = (⟨s, cs⟩ : Round τ).answered hooks := by
  -- whoever is called leaves the page to the next one as it was
  have hall (os : List (Observation Observer)) : ∀ t : Session τ,
      t.document.forest = s.document.forest → os.foldl (Session.tellOne hooks cs) t =
        ((os.map fun o => (o, o.matching s.document.forest cs)).filter
          fun call => !call.2.isEmpty).foldl (Round.answer hooks) t := by
    induction os with
    | nil => exact fun t _ => rfl
    | cons o r ih =>
        intro t ht
        rw [List.foldl_cons, tellOne_eq, ht, List.map_cons]
        cases hempty : (o.matching s.document.forest cs).isEmpty with
        | true => rw [if_pos rfl, List.filter_cons_of_neg (by simp [hempty]), ih t ht]
        | false =>
            rw [if_neg (by decide), List.filter_cons_of_pos (by simp [hempty]), List.foldl_cons]
            exact ih _ ((hquiet.answer t _).1.trans ht)
  exact hall _ s rfl

theorem Hooks.Quiet.answered (hquiet : hooks.Quiet) (r : Round τ)
    (h : r.session.document.waiting = none) : (r.answered hooks).document.waiting = none := by
  have hall (calls : List (Observation Observer × List Change)) : ∀ t : Session τ,
      t.document.waiting = none →
        (calls.foldl (Round.answer hooks) t).document.waiting = none := by
    induction calls with
    | nil => exact fun t ht => ht
    | cons call rest ih => exact fun t ht => ih _ ((hquiet.answer t call).2 ht)
  exact hall r.calls r.session h

/-- The book of the host after a round: whoever was called is in it, the keeper excepted. -/
theorem Hooks.Notes.answered {book : τ → List (Observation Observer × List Change)}
    (hnotes : hooks.Notes book) (r : Round τ) : book (r.answered hooks).host =
      book r.session.host ++ r.calls.filter fun call => call.1.who != .keeper := by
  have hall (calls : List (Observation Observer × List Change)) : ∀ t : Session τ,
      book (calls.foldl (Round.answer hooks) t).host =
        book t.host ++ calls.filter fun call => call.1.who != .keeper := by
    induction calls with
    | nil => exact fun t => (List.append_nil _).symm
    | cons call rest ih =>
        intro t
        rw [List.foldl_cons, ih]
        obtain ⟨o, cs⟩ := call
        by_cases hwho : o.who = .keeper
        · have hhost : (Round.answer hooks t (o, cs)).host = t.host := by
            unfold Round.answer
            rw [hwho]
            dsimp only
            split <;> rfl
          rw [hhost, List.filter_cons_of_neg (by simp [hwho])]
        · have hhost : Round.answer hooks t (o, cs) = hooks.told o cs t := by
            unfold Round.answer
            cases hw : o.who with
            | keeper => exact absurd hw hwho
            | _ => rfl
          rw [hhost, hnotes, List.filter_cons_of_pos (by simp [hwho]), List.append_assoc,
            List.singleton_append]
  exact hall r.calls r.session

/-- Of nothing nobody is told. -/
theorem tell_nothing (hooks : Hooks τ) (s : Session τ) : s.tell hooks [] = s := by
  unfold Session.tell
  induction s.document.observations with
  | nil => rfl
  | cons o r ih =>
      have hone : s.tellOne hooks [] o = s := rfl
      rw [List.foldl_cons, hone, ih]

/-! ## Changes -/

/-- All changes go the same way. -/
theorem Mutation.tried_eq (hooks : Hooks τ) (s : Session τ) (m : Mutation) :
    m.tried hooks s =
      match m.change s.document.forest with
      | some (f, c) => (s.post hooks f c, true)
      | none => (s, !m.refusable) := by
  cases m with
  | append t markup => rfl
  | insert t index markup => rfl
  | replaceChildren t markup => rfl
  | remove t =>
      unfold Mutation.tried Session.remove Mutation.change
      dsimp only
      cases s.document.forest.remove t with
      | mk f o => cases o <;> rfl
  | setText t text =>
      unfold Mutation.tried Session.setText Mutation.change
      dsimp only
      cases s.document.forest.setText t text <;> rfl

/-- Inside a batch the record of a change is put down behind the others. -/
theorem post_waiting (hooks : Hooks τ) (s : Session τ) (f : Forest) (c : Change) (cs : List Change) :
    (s.withWaiting (some cs)).post hooks f c =
      (s.withForest f).withWaiting (some (cs ++ [c])) :=
  tell_nothing hooks _

/-- Outside batches everyone is told of a change at once. -/
theorem post_none (hquiet : hooks.Quiet) (h : s.document.waiting = none) (f : Forest) (c : Change) :
    s.post hooks f c = (⟨s.withForest f, [c]⟩ : Round τ).answered hooks := by
  have hrecord : ({ s.document with forest := f } : Document _ _).record c =
      ({ s.document with forest := f }, [c]) := by
    unfold Document.record
    dsimp only
    rw [h]
  rw [← tell_eq_answered hquiet, Session.post, hrecord]
  rfl

/-! ## Inside a batch -/

namespace Activity

/-- The host is not asked, and the list is left alone. -/
theorem waiting_host_held (a : Activity τ) : ∀ s : Session τ,
    (a.held s).session.document.waiting = s.document.waiting ∧ (a.held s).session.host = s.host := by
  induction a with
  | change m =>
      intro s
      rw [held]
      split <;> exact ⟨rfl, rfl⟩
  | look rest ih => exact fun s => ih s s
  | andThen a rest iha ihrest =>
      intro s
      obtain ⟨hwaiting, hhost⟩ := iha s
      obtain ⟨hwaiting', hhost'⟩ := ihrest (a.held s).completed (a.held s).session
      exact ⟨hwaiting'.trans hwaiting, hhost'.trans hhost⟩
  | batch a ih => exact ih
  | _ => exact fun s => ⟨rfl, rfl⟩

/-- **The invariant of an open batch.** After any activity the records that waited still wait, and
those of its own changes behind them. Nobody has been told. -/
theorem run_held (hooks : Hooks τ) (a : Activity τ) : ∀ (s : Session τ) (cs : List Change),
    s.document.waiting = none → a.run hooks (s.withWaiting (some cs)) =
      ((a.held s).session.withWaiting (some (cs ++ (a.held s).records)), (a.held s).completed) := by
  induction a with
  | change m =>
      intro s cs _
      have hforest : (s.withWaiting (some cs)).document.forest = s.document.forest := rfl
      rw [run, Mutation.tried_eq, hforest, held]
      cases m.change s.document.forest with
      | none => rw [List.append_nil]
      | some made =>
          obtain ⟨f, c⟩ := made
          dsimp only
          rw [post_waiting]
  | look rest ih =>
      intro s cs h
      have hshown : (s.withWaiting (some cs)).withWaiting none = s := s.withWaiting_self h
      rw [run, hshown, ih s s cs h, held]
  | andThen a rest iha ihrest =>
      intro s cs h
      rw [run, iha s cs h, ihrest _ _ _ ((a.waiting_host_held s).1.trans h), held, List.append_assoc]
  | batch a ih =>
      intro s cs h
      exact ih s cs h
  | _ =>
      intro s cs _
      rw [held, List.append_nil]
      rfl

theorem made_held (hooks : Hooks τ) (a : Activity τ) : ∀ (s : Session τ) (cs : List Change),
    s.document.waiting = none → a.made hooks (s.withWaiting (some cs)) = (a.held s).records := by
  induction a with
  | change m =>
      intro s cs _
      have hforest : (s.withWaiting (some cs)).document.forest = s.document.forest := rfl
      rw [made, hforest, held]
      cases m.change s.document.forest <;> rfl
  | look rest ih =>
      intro s cs h
      have hshown : (s.withWaiting (some cs)).withWaiting none = s := s.withWaiting_self h
      rw [made, hshown, ih s s cs h, held]
  | andThen a rest iha ihrest =>
      intro s cs h
      rw [made, iha s cs h, run_held hooks a s cs h,
        ihrest _ _ _ ((a.waiting_host_held s).1.trans h), held]
  | batch a ih =>
      intro s cs h
      exact ih s cs h
  | _ => exact fun s cs _ => rfl

/-! ## Outside batches -/

/-- **The outermost batch**: at its end, however it came, everyone is told of all its records. -/
theorem run_batch (hquiet : hooks.Quiet) (a : Activity τ) (h : s.document.waiting = none) :
    (Activity.batch a).run hooks s =
      ((⟨(a.held s).session, (a.held s).records⟩ : Round τ).answered hooks,
        (a.held s).completed) := by
  have hopen : s.document.openBatch = ({ s.document with waiting := some [] }, true) := by
    rw [Document.openBatch, h]
  have hbody : a.run hooks { s with document := { s.document with waiting := some [] } } =
      ((a.held s).session.withWaiting (some (a.held s).records), (a.held s).completed) :=
    run_held hooks a s [] h
  have hclosed : (a.held s).session.withWaiting none = (a.held s).session :=
    Session.withWaiting_self ((a.waiting_host_held s).1.trans h)
  rw [run, Session.batch, hopen]
  dsimp only
  rw [if_pos rfl, hbody, ← tell_eq_answered hquiet]
  exact congrArg (fun s => (Session.tell hooks s (a.held _).records, (a.held _).completed)) hclosed

/-- **Every activity runs as it ought to.** -/
theorem run_eq_told (hquiet : hooks.Quiet) (a : Activity τ) : ∀ s : Session τ,
    s.document.waiting = none →
      a.run hooks s = ((a.told hooks s).session, (a.told hooks s).completed) ∧
        (a.told hooks s).session.document.waiting = none := by
  induction a with
  | change m =>
      intro s h
      rw [run, Mutation.tried_eq, told]
      cases m.change s.document.forest with
      | none => exact ⟨rfl, h⟩
      | some made =>
          obtain ⟨f, c⟩ := made
          dsimp only
          rw [post_none hquiet h]
          exact ⟨rfl, hquiet.answered _ h⟩
  | look rest ih =>
      intro s h
      rw [run, s.withWaiting_self h, told]
      exact ih s s h
  | andThen a rest iha ihrest =>
      intro s h
      obtain ⟨hfirst, hnone⟩ := iha s h
      rw [run, hfirst, told]
      exact ihrest _ _ hnone
  | batch a ih =>
      intro s h
      exact ⟨run_batch hquiet a h, hquiet.answered _ ((a.waiting_host_held s).1.trans h)⟩
  | _ => exact fun s h => ⟨rfl, h⟩

/-- Each record is told of in one round, and the rounds have them in their order. -/
theorem records_told (hquiet : hooks.Quiet) (a : Activity τ) : ∀ s : Session τ,
    s.document.waiting = none → (a.told hooks s).rounds.flatMap Round.records = a.made hooks s := by
  induction a with
  | change m =>
      intro s _
      rw [made, told]
      cases m.change s.document.forest <;> rfl
  | look rest ih =>
      intro s h
      rw [made, s.withWaiting_self h, told]
      exact ih s s h
  | andThen a rest iha ihrest =>
      intro s h
      obtain ⟨hfirst, hnone⟩ := run_eq_told hquiet a s h
      rw [made, hfirst, told, List.flatMap_append, iha s h]
      exact congrArg _ (ihrest _ _ hnone)
  | batch a ih =>
      intro s h
      have hopen : s.document.openBatch.1 = { s.document with waiting := some [] } := by
        rw [Document.openBatch, h]
      rw [made, hopen, told, List.flatMap_singleton]
      exact (made_held hooks a s [] h).symm
  | _ => exact fun s _ => rfl

/-- Whoever is called in the rounds, the keeper excepted, is in the host's book in that order. -/
theorem book_told {book : τ → List (Observation Observer × List Change)} (hnotes : hooks.Notes book)
    (a : Activity τ) : ∀ s : Session τ, book (a.told hooks s).session.host =
      book s.host ++ ((a.told hooks s).rounds.flatMap Round.calls).filter
        fun call => call.1.who != .keeper := by
  induction a with
  | change m =>
      intro s
      rw [told]
      cases m.change s.document.forest with
      | none => exact (List.append_nil _).symm
      | some made =>
          dsimp only
          rw [List.flatMap_singleton, hnotes.answered]
          rfl
  | look rest ih => exact fun s => ih s s
  | andThen a rest iha ihrest =>
      intro s
      rw [told]
      dsimp only
      rw [ihrest, iha, List.flatMap_append, List.filter_append, List.append_assoc]
  | batch a ih =>
      intro s
      rw [told]
      dsimp only
      rw [List.flatMap_singleton, hnotes.answered, (a.waiting_host_held _).2]
  | _ => exact fun s => (List.append_nil _).symm

/-- A host that remembers its calls. -/
def bookkeeping : Hooks (List (Observation Observer × List Change)) :=
  { Hooks.idle with told := fun o cs s => { s with host := s.host ++ [(o, cs)] } }

/-- A page with two blocks, the second of which is observed. -/
def twoBlocks : Session (List (Observation Observer × List Change)) where
  document.forest.page :=
    .element 0 ⟨Markup.rootName, []⟩
      [.element 1 ⟨"p", []⟩ [.leaf 2 .plain "so"],
        .element 3 ⟨"p", []⟩ [.leaf 4 .plain "be", .element 5 ⟨"img", []⟩ []]]
  document.forest.loose := []
  document.forest.nextId := 6
  document.ready := true
  document.observations := [⟨0, .host "block", [3]⟩]
  document.nextKey := 1
  settings := {}
  sweeper := .host
  owned := true
  timer := Timing.Timer.idle .exact
  pacer := {}
  watcher := {}
  log := []
  host := []

/-- A batch with another one in it, which is broken off by a text that is nowhere; then, as the failure
is caught, one more change. -/
def brokenOff : Activity τ :=
  .andThen
    (.batch (.andThen (.change (.setText 2 "really")) fun _ =>
      .andThen (.observe (.host "page") [0]) fun _ =>
      .andThen (.batch (.andThen (.change (.remove 5)) fun _ => .change (.setText 2 "once more")))
        fun completed => if completed then .change (.remove 3) else .stop false))
    fun _ => .change (.remove 4)

end Activity

end StickerPages.Live
