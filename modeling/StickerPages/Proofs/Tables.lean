import StickerPages.Content.Filler
import StickerPages.Proofs.Requests

/-!
# The table in hand

A filler keeps one table and the name of its source, and there are two ways to come by a table. What
a load comes to (`Outcome`) is settled by what the filler starts from and by what lies at the address
that it asks (`Comes`). Only one outcome is kept, a table that was read. Everything else, trouble of
any kind among it, leaves what is in hand (`Leaves`).

So over a run the filler has in hand what was kept last (`Remembers`), however successes, trouble and
changes of the settings followed each other (`performAll_remembers`).
-/

namespace StickerPages.Content

open Remote

variable {f f' : Filler} {p : Settings.Plugin} {s : Site} {address : Value} {t : Table}

/-! ## What a load comes to -/

/-- This table lies at an address. -/
def HoldsTable (s : Site) (address : Value) (t : Table) : Prop :=
  ∃ body v gs, (s.get address).2 = .ok body ∧ Unwraps body v ∧ Catalog.ofValue v = .ok gs ∧
    t = Catalog.shortcodeMap gs

/-- The table in hand is one from this address, and not empty. -/
def InHandFrom (f : Filler) (address : Value) : Prop :=
  ∃ s, address = .text s ∧ f.source = some s ∧ f.table ≠ []

/-- A load has to make a request: in custom mode always, else for an address that the table in hand
is not from. -/
def Needs (f : Filler) (p : Settings.Plugin) : Prop :=
  p.customMode.truthy = true ∨ p.configUrl.truthy = true ∧ ¬InHandFrom f p.configUrl

/-- Where a load asks. -/
def addressOf (f : Filler) (p : Settings.Plugin) : Value :=
  if p.customMode.truthy then f.settings.customStickersPath else p.configUrl

/-- The source under which a load keeps what it reads. -/
def sourceOf (p : Settings.Plugin) : String :=
  if p.customMode.truthy then Filler.customSource else p.configUrl.plain

/-- What a load comes to. -/
inductive Outcome where
  /-- A table was read, and is kept with its source. -/
  | kept (source : String) (table : Table)
  /-- The custom catalog is an empty body. -/
  | empty
  /-- No table could be read. -/
  | failed
  /-- The table in hand serves. -/
  | spared
  /-- There is no address. -/
  | unset
  | brokenOff

/-- What is in hand afterwards. -/
def Outcome.after (o : Outcome) (inHand : Option String × Table) : Option String × Table :=
  match o with
  | .kept source table => (some source, table)
  | _ => inHand

/-- What is answered, by the table in hand. -/
def Outcome.answer (o : Outcome) (inHand : Table) : Except Trouble Table :=
  match o with
  | .kept _ table => .ok table
  | .empty | .unset => .ok []
  | .failed | .spared => .ok inHand
  | .brokenOff => .error .brokenOff

/-- A load comes to this. -/
inductive Comes (f : Filler) (p : Settings.Plugin) : Outcome → Prop
  | kept {t : Table} (hneeds : Needs f p) (ht : HoldsTable f.site (addressOf f p) t) :
      Comes f p (.kept (sourceOf p) t)
  | empty (hmode : p.customMode.truthy = true)
      (hempty : (f.site.get (addressOf f p)).2 = .ok "") : Comes f p .empty
  | failed (hneeds : Needs f p) (hnone : ∀ t, ¬HoldsTable f.site (addressOf f p) t)
      (hfull : p.customMode.truthy = true → (f.site.get (addressOf f p)).2 ≠ .ok "")
      (hsteady : Steady (f.site.get (addressOf f p)).2) : Comes f p .failed
  | spared (hneeds : ¬Needs f p) (hurl : p.configUrl.truthy = true) : Comes f p .spared
  | unset (hneeds : ¬Needs f p) (hurl : p.configUrl.truthy = false) : Comes f p .unset
  | brokenOff (hneeds : Needs f p)
      (hbroken : (f.site.get (addressOf f p)).2 = .error .brokenOff) : Comes f p .brokenOff

theorem exists_comes (f : Filler) (p : Settings.Plugin) : ∃ o, Comes f p o := by
  by_cases hneeds : Needs f p
  · by_cases ht : ∃ t, HoldsTable f.site (addressOf f p) t
    · obtain ⟨t, ht⟩ := ht
      exact ⟨_, .kept hneeds ht⟩
    · by_cases hempty : p.customMode.truthy = true ∧ (f.site.get (addressOf f p)).2 = .ok ""
      · exact ⟨_, .empty hempty.1 hempty.2⟩
      · by_cases hbroken : (f.site.get (addressOf f p)).2 = .error .brokenOff
        · exact ⟨_, .brokenOff hneeds hbroken⟩
        · exact ⟨_, .failed hneeds (not_exists.mp ht) (not_and.mp hempty) hbroken⟩
  · cases hurl : p.configUrl.truthy with
    | true => exact ⟨_, .spared hneeds hurl⟩
    | false => exact ⟨_, .unset hneeds hurl⟩

/-! ## What is read -/

theorem readTable_eq (body : String) :
    Filler.readTable body =
      ((readBody body).bind readGroups).bind fun gs => .ok (Catalog.shortcodeMap gs) := by
  rw [Filler.readTable]
  cases readBody body <;> rfl

theorem steady_readTable (body : String) : Steady (Filler.readTable body) := by
  rw [readTable_eq]
  exact ((steady_readBody body).bind steady_readGroups).bind fun _ => steady_ok _

theorem holdsTable_iff :
    HoldsTable s address t ↔ (s.get address).2.bind Filler.readTable = .ok t := by
  constructor
  · rintro ⟨body, v, gs, hget, hv, hgs, rfl⟩
    rw [hget]
    show Filler.readTable body = _
    rw [readTable_eq, unwraps_iff.mp hv]
    show (readGroups v).bind _ = _
    rw [readGroups_eq_ok.mpr hgs]
    rfl
  · intro h
    obtain ⟨body, hget, h⟩ := bind_eq_ok.mp h
    rw [readTable_eq] at h
    obtain ⟨gs, h, ht⟩ := bind_eq_ok.mp h
    obtain ⟨v, hv, hgs⟩ := bind_eq_ok.mp h
    exact ⟨body, v, gs, hget, unwraps_iff.mpr hv, readGroups_eq_ok.mp hgs,
      (Except.ok.inj ht).symm⟩

/-- Trouble where no table lies. -/
theorem exists_trouble (hsteady : Steady (s.get address).2) (hnone : ∀ t, ¬HoldsTable s address t) :
    ∃ e, (s.get address).2.bind Filler.readTable = .error e ∧ e ≠ .brokenOff := by
  cases hdata : (s.get address).2.bind Filler.readTable with
  | ok t => exact (hnone t (holdsTable_iff.mpr hdata)).elim
  | error e =>
      refine ⟨e, rfl, ?_⟩
      rintro rfl
      exact hsteady.bind steady_readTable hdata

/-- An empty body holds no table. -/
theorem HoldsTable.full (h : HoldsTable s address t) : (s.get address).2 ≠ .ok "" := by
  rintro hget
  have hdata := holdsTable_iff.mp h
  rw [hget] at hdata
  cases hdata

theorem text?_eq_some {v : Value} {s : String} : v.text? = some s ↔ v = .text s := by
  constructor
  · intro h
    unfold Value.text? at h
    split at h
    · rw [Option.some.inj h]
    · cases h
  · rintro rfl
    rfl

theorem isFrom_iff : f.isFrom address = true ↔ InHandFrom f address := by
  unfold Filler.isFrom InHandFrom
  cases hsource : f.source with
  | none => simp
  | some s =>
      rw [Bool.and_eq_true, beq_iff_eq, text?_eq_some]
      constructor
      · rintro ⟨haddress, htable⟩
        exact ⟨s, haddress, rfl, by simpa using htable⟩
      · rintro ⟨s', haddress, hs, htable⟩
        obtain rfl := Option.some.inj hs
        exact ⟨haddress, by simpa using htable⟩

/-! ## What a load leaves -/

/-- What a filler has in hand. -/
def inHand (f : Filler) : Option String × Table := (f.source, f.table)

/-- The outcome is all that a load changes, and it makes at most one request. -/
structure Leaves (f : Filler) (p : Settings.Plugin) (o : Outcome) (f' : Filler) : Prop where
  asked : Needs f p → f'.site = (f.site.get (addressOf f p)).1
  unasked : ¬Needs f p → f'.site = f.site
  inHand : inHand f' = o.after (inHand f)
  plugin : f'.plugin = f.plugin
  settings : f'.settings = f.settings

theorem isEmpty_iff {body : Except Trouble String} :
    (body.toOption == some "") = true ↔ body = .ok "" := by
  cases body <;> simp [Except.toOption]

/-- After a request the site has moved on, whatever the answer was. -/
theorem Leaves.of_needs {o : Outcome} (hneeds : Needs f p)
    (hsite : f'.site = (f.site.get (addressOf f p)).1)
    (hinHand : Content.inHand f' = o.after (Content.inHand f)) (hplugin : f'.plugin = f.plugin)
    (hsettings : f'.settings = f.settings) : Leaves f p o f' :=
  ⟨fun _ => hsite, fun hn => absurd hneeds hn, hinHand, hplugin, hsettings⟩

theorem Comes.loadCustom {o : Outcome} (h : Comes f p o) (hmode : p.customMode.truthy = true) :
    Leaves f p o f.loadCustom.1 ∧ f.loadCustom.2 = o.answer f.table := by
  have haddress : addressOf f p = f.settings.customStickersPath := if_pos hmode
  have hsource : sourceOf p = Filler.customSource := if_pos hmode
  have hneeds : Needs f p := .inl hmode
  unfold Filler.loadCustom
  rw [← haddress, ← hsource]
  dsimp only
  cases h with
  | kept _ ht =>
      rw [if_neg fun he => ht.full (isEmpty_iff.mp he), holdsTable_iff.mp ht]
      exact ⟨.of_needs hneeds rfl rfl rfl rfl, rfl⟩
  | empty _ hempty =>
      rw [if_pos (isEmpty_iff.mpr hempty)]
      exact ⟨.of_needs hneeds rfl rfl rfl rfl, rfl⟩
  | failed _ hnone hfull hsteady =>
      obtain ⟨e, hdata, he⟩ := exists_trouble hsteady hnone
      rw [if_neg fun h => hfull hmode (isEmpty_iff.mp h), hdata]
      split
      · next h => exact absurd (Except.error.inj h) he
      · exact ⟨.of_needs hneeds rfl rfl rfl rfl, rfl⟩
      · next h => cases h
  | spared hn => exact absurd hneeds hn
  | unset hn => exact absurd hneeds hn
  | brokenOff _ hbroken =>
      rw [hbroken]
      exact ⟨.of_needs hneeds rfl rfl rfl rfl, rfl⟩

theorem Comes.loadFrom {o : Outcome} (h : Comes f p o) (hmode : p.customMode.truthy = false)
    (hneeds : Needs f p) :
    Leaves f p o (f.loadFrom p.configUrl).1 ∧ (f.loadFrom p.configUrl).2 = o.answer f.table := by
  have hnot : ¬p.customMode.truthy = true := by simp [hmode]
  have haddress : addressOf f p = p.configUrl := if_neg hnot
  have hsource : sourceOf p = p.configUrl.plain := if_neg hnot
  unfold Filler.loadFrom
  rw [← haddress] at hsource ⊢
  rw [← hsource]
  dsimp only
  cases h with
  | kept _ ht =>
      rw [holdsTable_iff.mp ht]
      exact ⟨.of_needs hneeds rfl rfl rfl rfl, rfl⟩
  | empty hmode' => exact absurd hmode' hnot
  | failed _ hnone _ hsteady =>
      obtain ⟨e, hdata, he⟩ := exists_trouble hsteady hnone
      rw [hdata]
      split
      · next h => exact absurd (Except.error.inj h) he
      · exact ⟨.of_needs hneeds rfl rfl rfl rfl, rfl⟩
      · next h => cases h
  | spared hn => exact absurd hneeds hn
  | unset hn => exact absurd hneeds hn
  | brokenOff _ hbroken =>
      rw [hbroken]
      exact ⟨.of_needs hneeds rfl rfl rfl rfl, rfl⟩

/-- **A load leaves what its outcome says.** -/
theorem Comes.load {o : Outcome} (h : Comes f p o) (hp : f.plugin = some p) :
    Leaves f p o f.load.1 ∧ f.load.2 = o.answer f.table := by
  have hload : f.load = f.loadUnder p := by rw [Filler.load, hp]
  rw [hload, Filler.loadUnder]
  cases hmode : p.customMode.truthy with
  | true => exact h.loadCustom hmode
  | false =>
      have hneeds : Needs f p ↔ p.configUrl.truthy = true ∧ ¬InHandFrom f p.configUrl := by
        simp [Needs, hmode]
      -- Nothing is asked, so nothing is changed.
      have hidle {o : Outcome} (hn : ¬Needs f p) (ho : o.after (inHand f) = inHand f) :
          Leaves f p o f := ⟨fun hn' => absurd hn' hn, fun _ => rfl, ho.symm, rfl, rfl⟩
      cases hurl : p.configUrl.truthy with
      | false =>
          have hn : ¬Needs f p := by simp [hneeds, hurl]
          cases h with
          | unset => exact ⟨hidle hn rfl, rfl⟩
          | spared _ hurl' => simp [hurl] at hurl'
          | empty hmode' => simp [hmode] at hmode'
          | kept hn' => exact absurd hn' hn
          | failed hn' => exact absurd hn' hn
          | brokenOff hn' => exact absurd hn' hn
      | true =>
          cases hfrom : f.isFrom p.configUrl with
          | false =>
              have hn : Needs f p :=
                hneeds.mpr ⟨hurl, fun h => by simp [isFrom_iff.mpr h] at hfrom⟩
              exact h.loadFrom hmode hn
          | true =>
              have hn : ¬Needs f p := fun h => (hneeds.mp h).2 (isFrom_iff.mp hfrom)
              cases h with
              | spared => exact ⟨hidle hn rfl, rfl⟩
              | unset _ hurl' => simp [hurl] at hurl'
              | empty hmode' => simp [hmode] at hmode'
              | kept hn' => exact absurd hn' hn
              | failed hn' => exact absurd hn' hn
              | brokenOff hn' => exact absurd hn' hn

/-! ## Runs -/

/-- What a filler is told to do. -/
inductive Task where
  | load
  | handle (content : Option String)
  /-- To take other plugin settings. -/
  | take (plugin : Option Settings.Plugin)

/-- The task needs a table. -/
def Task.loads : Task → Bool
  | .load | .handle _ => true
  | .take _ => false

/-- Does as told. -/
def Filler.perform (f : Filler) : Task → Filler
  | .load => f.load.1
  | .handle content => (f.handle content).1
  | .take plugin => f.setPlugin plugin

/-- Does as told, again and again. -/
def Filler.performAll (f : Filler) (tasks : List Task) : Filler := tasks.foldl perform f

/-- What a task does to a filler. -/
inductive Performed (f : Filler) : Task → Filler → Prop
  /-- A table was needed: one and the same outcome for whatever needed it. -/
  | loaded {task : Task} {p : Settings.Plugin} {f' : Filler} (htask : task.loads = true)
      (hp : f.plugin = some p) (hsome : ∃ o, Comes f p o)
      (hleaves : ∀ o, Comes f p o → Leaves f p o f')
      (hanswer : task = .load → ∀ o, Comes f p o → f.load.2 = o.answer f.table) :
      Performed f task f'
  /-- A table was needed, and there are no settings to find one with. -/
  | lacking {task : Task} {f' : Filler} (htask : task.loads = true) (hp : f.plugin = none)
      (hplugin : f'.plugin = none) (hsite : f'.site = f.site) (hinHand : inHand f' = inHand f) :
      Performed f task f'
  | took {plugin : Option Settings.Plugin} : Performed f (.take plugin) { f with plugin }

/-- What was kept last in a run, if `m` was kept last before it. -/
inductive Remembers : Filler → Option String × Table → List Task → Option String × Table → Prop
  | done {f : Filler} {m : Option String × Table} : Remembers f m [] m
  | kept {f : Filler} {m m' : Option String × Table} {task : Task} {tasks : List Task}
      {p : Settings.Plugin} {source : String} {t : Table} (htask : task.loads = true)
      (hp : f.plugin = some p) (hkept : Comes f p (.kept source t))
      (hrest : Remembers (f.perform task) (some source, t) tasks m') :
      Remembers f m (task :: tasks) m'
  | left {f : Filler} {m m' : Option String × Table} {task : Task} {tasks : List Task}
      (hnone : task.loads = true → ∀ p source t, f.plugin = some p →
        ¬Comes f p (.kept source t))
      (hrest : Remembers (f.perform task) m tasks m') : Remembers f m (task :: tasks) m'

/-- To fill a page is, for what is in hand, to load. -/
theorem handle_eq (f : Filler) (content : Option String) :
    ∃ log, (f.handle content).1 = { f.load.1 with log } := by
  unfold Filler.handle
  split
  · next h => exact ⟨_, by rw [h]⟩
  · next f' e _ h => exact ⟨(f'.report .error ("處理文章表情失敗: " ++ e.message)).log, by rw [h]; rfl⟩
  · next h => exact ⟨_, by rw [h]⟩

theorem perform_eq {task : Task} (h : task.loads = true) (f : Filler) :
    ∃ log, f.perform task = { f.load.1 with log } := by
  cases task with
  | load => exact ⟨_, rfl⟩
  | handle content => exact handle_eq f content
  | take plugin => cases h

theorem Leaves.withLog {o : Outcome} (h : Leaves f p o f') (log : Log) :
    Leaves f p o { f' with log } :=
  ⟨h.asked, h.unasked, h.inHand, h.plugin, h.settings⟩

/-- One task, performed. -/
theorem perform_performed (f : Filler) (task : Task) : Performed f task (f.perform task) := by
  cases htask : task.loads with
  | false =>
      cases task with
      | load => cases htask
      | handle content => cases htask
      | take plugin => exact .took
  | true =>
      obtain ⟨log, heq⟩ := perform_eq htask f
      rw [heq]
      cases hp : f.plugin with
      | none =>
          have hload : f.load.1 = f := by rw [Filler.load, hp]
          rw [hload]
          exact .lacking htask hp hp rfl rfl
      | some p =>
          exact .loaded htask hp (exists_comes f p) (fun o ho => (ho.load hp).1.withLog log)
            fun _ o ho => (ho.load hp).2

/-- A task that keeps nothing leaves what is in hand. -/
theorem inHand_of_left {task : Task} (h : Performed f task f')
    (hnone : task.loads = true → ∀ p source t, f.plugin = some p →
      ¬Comes f p (.kept source t)) : inHand f' = inHand f := by
  cases h with
  | loaded htask hp hsome hleaves =>
      obtain ⟨o, ho⟩ := hsome
      rw [(hleaves o ho).inHand]
      cases o with
      | kept source t => exact absurd ho (hnone htask _ source t hp)
      | _ => rfl
  | lacking _ _ _ _ hinHand => exact hinHand
  | took => rfl

theorem inHand_of_kept {task : Task} {source : String} (h : Performed f task f')
    (htask : task.loads = true) (hp : f.plugin = some p) (hkept : Comes f p (.kept source t)) :
    inHand f' = (some source, t) := by
  cases h with
  | loaded _ hp' _ hleaves =>
      obtain rfl := Option.some.inj (hp.symm.trans hp')
      exact (hleaves _ hkept).inHand
  | lacking _ hp' => cases hp.symm.trans hp'
  | took => cases htask

/-- **What is in hand is what was kept last.** -/
theorem remembers_iff (tasks : List Task) :
    ∀ {f : Filler} {m : Option String × Table},
      Remembers f (inHand f) tasks m ↔ m = inHand (f.performAll tasks) := by
  induction tasks with
  | nil =>
      intro f m
      constructor
      · rintro ⟨⟩
        rfl
      · rintro rfl
        exact .done
  | cons task tasks ih =>
      intro f m
      have hdone := perform_performed f task
      constructor
      · intro h
        cases h with
        | kept htask hp hkept hrest =>
            rw [← inHand_of_kept hdone htask hp hkept] at hrest
            exact ih.mp hrest
        | left hnone hrest =>
            rw [← inHand_of_left hdone hnone] at hrest
            exact ih.mp hrest
      · intro h
        have hrest : Remembers (f.perform task) (inHand (f.perform task)) tasks m := ih.mpr h
        by_cases hkept : task.loads = true ∧
            ∃ p source t, f.plugin = some p ∧ Comes f p (.kept source t)
        · obtain ⟨htask, p, source, t, hp, hkept⟩ := hkept
          rw [inHand_of_kept hdone htask hp hkept] at hrest
          exact .kept htask hp hkept hrest
        · have hnone : task.loads = true → ∀ p source t, f.plugin = some p →
              ¬Comes f p (.kept source t) :=
            fun htask p source t hp h => hkept ⟨htask, p, source, t, hp, h⟩
          rw [inHand_of_left hdone hnone] at hrest
          exact .left hnone hrest

/-- **Over a run a new filler has in hand what it kept last,** and each task does what it should. -/
theorem performAll_remembers (settings : Settings.Loader) (plugin : Option Settings.Plugin)
    (site : Site) (tasks : List Task) :
    let start : Filler := { settings, plugin, site }
    (∀ m, Remembers start (none, []) tasks m ↔ m = inHand (start.performAll tasks)) ∧
      ∀ task, Performed (start.performAll tasks) task (start.performAll (tasks ++ [task])) := by
  intro start
  refine ⟨fun m => remembers_iff tasks, fun task => ?_⟩
  have hlast : start.performAll (tasks ++ [task]) = (start.performAll tasks).perform task :=
    List.foldl_append
  rw [hlast]
  exact perform_performed _ task

end StickerPages.Content
