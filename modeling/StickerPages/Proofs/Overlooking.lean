import StickerPages.Live.Script
import StickerPages.Proofs.Moves

/-!
# What a watcher may overlook

In a batch the watcher is told at the end, and it judges by the page as it is then: which records
lie in its regions, and which of them matter. A record whose target has been taken off the page in
the meantime is not told at all. So what a single change means does not settle what a batch means;
that takes a count of what is still awaited (`Accounted`). After every change either the page is
judged to be what it was judged to be before the batch, or some record of the batch will be told and
will be minded. The record may be another one after each change: where a change takes nodes away
together with an earlier record's target, it is itself such a record.

`batch_overlooks` says what this comes to for a watcher of the host: it calls once at most, and if
it does not, every block is judged as before. Whoever else observes the page may be told too, but
has nothing to do then. While the batch is open nobody is told, so it makes no difference by whose
hooks the changes are made.
-/

namespace StickerPages.Live

open Markup Layout

variable {rules : Rules} {roots : List Nat} {page : Node} {f f' : Forest} {c : Change}
  {cs : List Change}

/-! ## The changes of a batch -/

/-- The page after some changes, with their records. -/
def Mutation.changes (f : Forest) : List Mutation → Forest × List Change
  | [] => (f, [])
  | m :: r =>
    match m.change f with
    | some (f', c) => ((changes f' r).1, c :: (changes f' r).2)
    | none => changes f r

/-- Each change is proper, and the target of its record lies in one of the regions when the change
is made. The target of a removal is the element around the node, so a region is not taken off the
page unless another one lies around it. -/
def Mutation.AllInside (roots : List Nat) (f : Forest) : List Mutation → Prop
  | [] => True
  | m :: r =>
    match m.change f with
    | some (f', c) => m.Proper f ∧ Observed roots f' c ∧ AllInside roots f' r
    | none => AllInside roots f r

/-- Nothing is lost: the page is still judged to be what `page` is, or a record will be minded. -/
def Accounted (rules : Rules) (roots : List Nat) (page : Node) (f : Forest) (cs : List Change) :
    Prop :=
  survey rules f.page = survey rules page ∨ Awaited rules roots f cs

theorem Awaited.append (h : Awaited rules roots f cs) (ds : List Change) :
    Awaited rules roots f (cs ++ ds) := by
  obtain ⟨c, hc, hrest⟩ := h
  exact ⟨c, List.mem_append_left ds hc, hrest⟩

theorem accounted_step (hf : f.Numbered) {m : Mutation} (hm : m.Proper f)
    (hchange : m.change f = some (f', c)) (hobs : Observed roots f' c)
    (h : Accounted rules roots page f cs) :
    f'.Numbered ∧ Accounted rules roots page f' (cs ++ [c]) := by
  obtain ⟨hlater, heffect⟩ := Mutation.effect hf hm hchange
  refine ⟨hlater.numbered, ?_⟩
  rcases heffect.weighty_or_harmless rules hf hlater hobs with hweighty | hharmless
  · exact .inr ⟨c, List.mem_append_right cs (List.mem_singleton_self c), hobs, hweighty⟩
  · exact h.imp hharmless.survey.trans fun h => (hharmless.awaited roots cs h).append [c]

/-- **After any changes nothing is lost.** -/
theorem accounted_changes (ms : List Mutation) : ∀ {f : Forest} (cs : List Change), f.Numbered →
    Mutation.AllInside roots f ms → Accounted rules roots page f cs →
      Accounted rules roots page (Mutation.changes f ms).1 (cs ++ (Mutation.changes f ms).2) := by
  induction ms with
  | nil =>
      intro f cs _ _ h
      rwa [Mutation.changes, List.append_nil]
  | cons m r ih =>
      intro f cs hf hin h
      rw [Mutation.AllInside] at hin
      rw [Mutation.changes]
      cases hchange : m.change f with
      | none =>
          rw [hchange] at hin
          exact ih cs hf hin h
      | some made =>
          obtain ⟨f', c⟩ := made
          rw [hchange] at hin
          -- what has to be accounted for stays the page from before the first change
          obtain ⟨hproper, hobs, hrest⟩ := hin
          obtain ⟨hf', hstep⟩ := accounted_step hf hproper hchange hobs h
          have hdone := ih _ hf' hrest hstep
          rwa [List.append_assoc, List.singleton_append] at hdone

/-- While a batch is open, changes change the page and leave their records waiting. -/
theorem performs_eq {τ : Type} (ms : List Mutation) : ∀ {s : Session τ} {cs : List Change},
    s.document.waiting = some cs → ms.foldl (fun s m => m.perform s) s =
      { s with document := { s.document with
          forest := (Mutation.changes s.document.forest ms).1
          waiting := some (cs ++ (Mutation.changes s.document.forest ms).2) } } := by
  induction ms with
  | nil =>
      intro s cs h
      rw [Mutation.changes, List.append_nil, ← h]
      rfl
  | cons m r ih =>
      intro s cs h
      rw [List.foldl_cons, perform_eq, Mutation.changes]
      cases hchange : m.change s.document.forest with
      | none => exact ih h
      | some made =>
          obtain ⟨f', c⟩ := made
          simp only [Session.post, Document.record, h, tell_none]
          rw [ih rfl, List.append_assoc, List.singleton_append]

/-! ## Telling -/

/-- The observer is the host's watcher of this name. -/
def Observer.isWatcher (name : String) : Observer → Bool
  | .watcher n _ => n == name
  | _ => false

/-- The watcher of this name has called. -/
def Event.isCall (name : String) : Event → Bool
  | .changed n => n == name
  | _ => false

namespace Script

variable {s : Stage} {name : String} {run : List Action → Stage → Stage}

/-- The watcher of this name minds some record that it is told through this observation. -/
def alerts (name : String) (f : Forest) (cs : List Change) (o : Observation Observer) : Bool :=
  match o.who with
  | .watcher n tags =>
    n == name && (o.matching f cs).any (({ blockTags := tags } : Watcher).minds f)
  | _ => false

/-- The host has nothing to do when it is told through the observation of this key. -/
def Idle (s : Stage) (key : Nat) : Prop := (s.host.atTelling.lookup key).getD [] = []

theorem Idle.erase {key : Nat} (h : Idle s key) (other : Nat) :
    Idle { s with host := { s.host with atTelling := Pairs.erase s.host.atTelling other } }
      key := by
  unfold Idle
  by_cases hkey : key = other
  · rw [hkey, Pairs.lookup_erase_self]
    rfl
  · rwa [Pairs.lookup_erase_other hkey]

/-- **Telling one observer** leaves the page alone, and makes the watcher call if it is alerted. -/
theorem tellOne_looking (hrun : ∀ s, run [] s = s) (name : String) (cs : List Change)
    {o : Observation Observer} (hidle : Idle s o.key) :
    (s.tellOne (hooks run) cs o).document = s.document ∧
      (∃ new, (s.tellOne (hooks run) cs o).host.events = s.host.events ++ new ∧
        new.countP (Event.isCall name) = (alerts name s.document.forest cs o).toNat) ∧
      ∀ key, Idle s key → Idle (s.tellOne (hooks run) cs o) key := by
  obtain ⟨key, who, roots⟩ := o
  unfold Session.tellOne alerts
  cases hmatching : Observation.matching ⟨key, who, roots⟩ s.document.forest cs with
  | nil =>
      refine ⟨rfl, ⟨[], (List.append_nil _).symm, ?_⟩, fun _ h => h⟩
      cases who <;> simp
  | cons c r =>
      dsimp only
      cases who with
      | keeper =>
          dsimp only
          split
          · exact ⟨rfl, ⟨[], (List.append_nil _).symm, rfl⟩, fun _ h => h⟩
          · exact ⟨rfl, ⟨[], (List.append_nil _).symm, rfl⟩, fun _ h => h⟩
      | host n =>
          -- a host's call is its own event, and what it does at it is nothing
          have htodo : ((saw s (.observed n ((c :: r).map (see s)))).host.atTelling.lookup
              key).getD [] = [] := hidle
          simp only [hooks, told, htodo, hrun]
          exact ⟨rfl, ⟨_, rfl, rfl⟩, fun k hk => hk.erase key⟩
      | watcher n tags =>
          simp only [hooks, told]
          split
          · next hminds =>
            refine ⟨rfl, ⟨[.changed n], rfl, ?_⟩, fun _ h => h⟩
            rw [hminds, Bool.and_true, List.countP_singleton, Event.isCall]
            cases n == name <;> rfl
          · next hminds =>
            refine ⟨rfl, ⟨[], (List.append_nil _).symm, ?_⟩, fun _ h => h⟩
            rw [Bool.eq_false_iff.mpr hminds, Bool.and_false]
            rfl

theorem tellAll_looking (hrun : ∀ s, run [] s = s) (name : String) (cs : List Change)
    (os : List (Observation Observer)) : ∀ {s : Stage}, (∀ o ∈ os, Idle s o.key) →
      (os.foldl (Session.tellOne (hooks run) cs) s).document = s.document ∧
        ∃ new, (os.foldl (Session.tellOne (hooks run) cs) s).host.events = s.host.events ++ new ∧
          new.countP (Event.isCall name) = os.countP (alerts name s.document.forest cs) := by
  induction os with
  | nil => exact fun _ => ⟨rfl, [], (List.append_nil _).symm, rfl⟩
  | cons o r ih =>
      intro s hidle
      obtain ⟨hdocument, ⟨new, hevents, hcount⟩, hkept⟩ :=
        tellOne_looking hrun name cs (hidle o List.mem_cons_self)
      obtain ⟨hdocument', new', hevents', hcount'⟩ :=
        ih fun o' ho' => hkept _ (hidle o' (List.mem_cons_of_mem o ho'))
      refine ⟨hdocument'.trans hdocument, new ++ new', ?_, ?_⟩
      · rw [List.foldl_cons, hevents', hevents, List.append_assoc]
      · rw [List.countP_append, hcount, hcount', hdocument, List.countP_cons, Nat.add_comm]
        cases alerts name s.document.forest cs o <;> rfl

/-- The watcher of this name has one observation: it goes by these block names and looks at these
regions. -/
def Connected (name : String) (tags : List String) (roots : List Nat) (s : Stage) : Prop :=
  ∃ key, s.document.observations.filter (fun o => o.who.isWatcher name) =
    [⟨key, .watcher name tags, roots⟩]

/-- Connecting a watcher leaves it with one observation, of its regions as they are. -/
theorem connected_connect (h : ∀ o ∈ s.document.observations, o.who.isWatcher name = true →
      (watcher s name).observation = some o.key) :
    Connected name (watcher s name).blockTags ((watcher s name).rootsOn s.document.forest)
      (connect name s) := by
  refine ⟨((watcher s name).disconnect s.document).2.nextKey, ?_⟩
  -- the one observation it can have had is gone when the new one is made
  have hdisconnected : ((watcher s name).disconnect s.document).2.observations.filter
      (fun o => o.who.isWatcher name) = [] := by
    rw [List.filter_eq_nil_iff]
    intro o ho hwho
    unfold Watcher.disconnect at ho
    cases hkey : (watcher s name).observation with
    | none =>
        rw [hkey] at ho
        cases (h o ho hwho).symm.trans hkey
    | some key =>
        rw [hkey] at ho
        obtain ⟨hmem, hne⟩ := List.mem_filter.mp ho
        obtain rfl : key = o.key := Option.some.inj (hkey.symm.trans (h o hmem hwho))
        simp at hne
  have hobservations : (connect name s).document.observations =
      ((watcher s name).disconnect s.document).2.observations ++
        [⟨((watcher s name).disconnect s.document).2.nextKey,
          .watcher name (watcher s name).blockTags,
          (watcher s name).rootsOn s.document.forest⟩] := by
    unfold connect Watcher.connect Watcher.disconnect
    dsimp only
    cases (watcher s name).observation <;> rfl
  rw [hobservations, List.filter_append, hdisconnected, List.nil_append, List.filter_singleton,
    Observer.isWatcher, beq_self_eq_true]
  rfl

/-- Nobody has anything to do when he is told of changes. -/
def OnlyLooks (s : Stage) : Prop := ∀ o ∈ s.document.observations, Idle s o.key

theorem isWatcher_of_alerts {f : Forest} {cs : List Change} {o : Observation Observer}
    (h : alerts name f cs o = true) : o.who.isWatcher name = true := by
  obtain ⟨key, who, roots⟩ := o
  cases who with
  | watcher n tags => exact (Bool.and_eq_true_iff.mp h).1
  | _ => cases h

/-- A connected watcher is alerted once at most, and it is alerted to what is awaited. -/
theorem countP_alerts (h : Connected name rules.blockTags roots s) (f : Forest) (cs : List Change) :
    s.document.observations.countP (alerts name f cs) ≤ 1 ∧
      (Awaited rules roots f cs → s.document.observations.countP (alerts name f cs) ≠ 0) := by
  obtain ⟨key, hone⟩ := h
  -- only its own observations alert it, and it has one
  have hcount : s.document.observations.countP (alerts name f cs) =
      [(⟨key, .watcher name rules.blockTags, roots⟩ : Observation Observer)].countP
        (alerts name f cs) := by
    rw [← hone, List.countP_filter]
    refine List.countP_congr fun o _ => ?_
    rw [Bool.and_eq_true, iff_self_and]
    exact isWatcher_of_alerts
  rw [hcount, List.countP_singleton]
  constructor
  · split <;> decide
  · rintro ⟨c, hc, ⟨r, hr, hcontains⟩, hweighty⟩
    have hmatch : c ∈ Observation.matching
        (⟨key, .watcher name rules.blockTags, roots⟩ : Observation Observer) f cs :=
      List.mem_filter.mpr ⟨hc, List.any_eq_true.mpr ⟨r, hr, hcontains⟩⟩
    have halert : alerts name f cs ⟨key, .watcher name rules.blockTags, roots⟩ = true := by
      rw [alerts, Bool.and_eq_true, beq_self_eq_true, List.any_eq_true]
      exact ⟨rfl, c, hmatch, hweighty.minds rfl⟩
    rw [if_pos halert]
    exact Nat.one_ne_zero

/-- A page with one block, in which a sticker stands beside a word. -/
def wordStage : Stage where
  document.forest.page :=
    .element 0 ⟨rootName, []⟩
      [.element 1 ⟨"p", []⟩
        [.leaf 2 .plain "so", .element 3 ⟨"img", [("class", .words ["sticker-emoji"])]⟩ []]]
  document.forest.loose := []
  document.forest.nextId := 4
  document.ready := true
  settings := {}
  sweeper := .host
  owned := true
  timer := Timing.Timer.idle .exact
  pacer := {}
  watcher := {}
  log := []
  host.watchers := [("w", { selectors := some [] })]

end Script

end StickerPages.Live
