import StickerPages.Proofs.Tables

/-!
# Where the table in hand comes from

When a filler answers without asking, it says that the table in hand is from the address in the
settings. `performAll_remembers` says that this table was kept last, under the address as its source.
What is said here is that it then also lay there: the last time that address was asked, this table was
what it sent (`LastSent`).

The step that carries this over a run is a matter of two things that exclude each other. A task may
keep a table, and then the source tells where it lay. Or it keeps nothing, and then it has not asked
for the address either, because as long as the table in hand is from there nobody asks.

One word spoils it. Tables of the custom catalog are kept under a word that is also an address. If the
settings name that address, then the table in hand may be the custom catalog's (`not_lastSent`).
-/

namespace StickerPages.Content

open Remote

variable {f : Filler} {p : Settings.Plugin} {s : Site} {address : Value} {t : Table} {u : String}

/-! ## Asking and answering -/

/-- A task asks for what lies at this address, and not in custom mode. -/
def AsksFor (u : String) (f : Filler) (task : Task) : Prop :=
  task.loads = true ∧ ∃ p, f.plugin = some p ∧ p.customMode.truthy = false ∧
    p.configUrl = .text u ∧ Needs f p

/-- No task of a run asks for this address. -/
def Unasked (u : String) : Filler → List Task → Prop
  | _, [] => True
  | f, task :: tasks => ¬AsksFor u f task ∧ Unasked u (f.perform task) tasks

/-- Somewhere in a run this address was asked and sent this table, and after that it was not asked
again. -/
inductive LastSent (u : String) (t : Table) : Filler → List Task → Prop
  | here {f : Filler} {task : Task} {tasks : List Task} (hasks : AsksFor u f task)
      (hsite : (f.perform task).site = (f.site.get (.text u)).1)
      (ht : HoldsTable f.site (.text u) t) (hrest : Unasked u (f.perform task) tasks) :
      LastSent u t f (task :: tasks)
  | later {f : Filler} {task : Task} {tasks : List Task} (h : LastSent u t (f.perform task) tasks) :
      LastSent u t f (task :: tasks)

/-- What sends a table has an address that is a text. -/
theorem HoldsTable.exists_text (h : HoldsTable s address t) : ∃ u, address = .text u := by
  obtain ⟨body, _, _, hget, -, -, -⟩ := h
  unfold Site.get at hget
  split at hget
  next => cases hget
  next full hresolve =>
    unfold Site.resolve at hresolve
    split at hresolve
    next u => exact ⟨u, rfl⟩
    next => cases hresolve

/-- As long as the table in hand is from an address, nobody asks for it. -/
theorem not_asksFor {task : Task} (hheld : inHand f = (some u, t)) (ht : t ≠ []) :
    ¬AsksFor u f task := by
  rintro ⟨-, p, -, hmode, hurl, hneeds⟩
  obtain ⟨hsource, rfl⟩ := Prod.mk.inj hheld
  rcases hneeds with hcustom | ⟨-, hnot⟩
  · rw [hmode] at hcustom
    cases hcustom
  · exact hnot ⟨u, hurl, hsource, ht⟩

/-- A filler answers with the table in hand, and does nothing else, if that is from the address in its
settings, -/
theorem load_of_inHandFrom (hp : f.plugin = some p) (hmode : p.customMode.truthy = false)
    (hurl : p.configUrl.truthy = true) (h : InHandFrom f p.configUrl) :
    f.load = (f, .ok f.table) := by
  rw [Filler.load, hp]
  show f.loadUnder p = _
  rw [Filler.loadUnder, hmode, hurl, isFrom_iff.mpr h]
  rfl

/-- and only then: whoever asks also reports what came of it. -/
theorem inHandFrom_of_load (hp : f.plugin = some p) (hmode : p.customMode.truthy = false)
    (hurl : p.configUrl.truthy = true) (h : f.load = (f, .ok t)) : InHandFrom f p.configUrl := by
  by_contra hnot
  have hfrom : f.isFrom p.configUrl = false := by
    rwa [← Bool.not_eq_true, isFrom_iff]
  have hload : f.load = f.loadFrom p.configUrl := by
    rw [Filler.load, hp]
    show f.loadUnder p = _
    rw [Filler.loadUnder, hmode, hurl, hfrom]
    rfl
  -- whatever comes of asking, the log has grown, and so the filler is not the same
  have hlog (r : Log) (hr : r ≠ []) : f.log ++ r ≠ f.log := by simpa using hr
  rw [hload, Filler.loadFrom] at h
  dsimp only at h
  split at h
  · cases (Prod.mk.inj h).2
  · exact hlog [_] (List.cons_ne_nil _ _) (congrArg Filler.log (Prod.mk.inj h).1)
  · exact hlog [_] (List.cons_ne_nil _ _) (congrArg Filler.log (Prod.mk.inj h).1)

/-! ## Runs -/

/-- What a task keeps under another source than the custom one lay at the address of that name. -/
theorem asksFor_of_kept {task : Task} (htask : task.loads = true) (hp : f.plugin = some p)
    (hkept : Comes f p (.kept u t)) (hu : u ≠ Filler.customSource) :
    AsksFor u f task ∧ (f.perform task).site = (f.site.get (.text u)).1 ∧
      HoldsTable f.site (.text u) t := by
  have hdone := perform_performed f task
  cases hkept with
  | kept hneeds ht =>
      have hmode : p.customMode.truthy = false := by
        rw [← Bool.not_eq_true]
        exact fun hmode => hu (if_pos hmode)
      -- so what was kept goes by the address in the settings
      have hnot : ¬p.customMode.truthy = true := by simp [hmode]
      have haddress : addressOf f p = p.configUrl := if_neg hnot
      have hsource : sourceOf p = p.configUrl.plain := if_neg hnot
      rw [haddress] at ht
      obtain ⟨w, hw⟩ := ht.exists_text
      have hurl : p.configUrl = .text (sourceOf p) := by
        rw [hsource, hw]
        rfl
      rw [hurl] at ht haddress
      refine ⟨⟨htask, p, hp, hmode, hurl, hneeds⟩, ?_, ht⟩
      cases hdone with
      | loaded _ hp' hsome hleaves =>
          obtain rfl := Option.some.inj (hp.symm.trans hp')
          obtain ⟨o, ho⟩ := hsome
          rw [(hleaves o ho).asked hneeds, haddress]
      | lacking _ hp' => cases hp.symm.trans hp'
      | took => cases htask

/-- What is in hand after a run was sent in it last, or was in hand before and not asked for. -/
theorem lastSent_or_held (hu : u ≠ Filler.customSource) (ht : t ≠ []) (tasks : List Task) :
    ∀ {f : Filler}, inHand (f.performAll tasks) = (some u, t) →
      LastSent u t f tasks ∨ inHand f = (some u, t) ∧ Unasked u f tasks := by
  induction tasks with
  | nil => exact fun h => .inr ⟨h, trivial⟩
  | cons task tasks ih =>
      intro f h
      have hdone := perform_performed f task
      rcases ih (f := f.perform task) h with hsent | ⟨hheld, hrest⟩
      · exact .inl (.later hsent)
      · -- either this task has kept the table, or it was in hand before and nobody asked
        by_cases hkept : task.loads = true ∧
            ∃ p source t', f.plugin = some p ∧ Comes f p (.kept source t')
        · obtain ⟨htask, p, source, t', hp, hkept⟩ := hkept
          obtain ⟨hsource, rfl⟩ :=
            Prod.mk.inj ((inHand_of_kept hdone htask hp hkept).symm.trans hheld)
          obtain rfl := Option.some.inj hsource
          obtain ⟨hasks, hsite, hsent⟩ := asksFor_of_kept htask hp hkept hu
          exact .inl (.here hasks hsite hsent hrest)
        · have hleft : inHand (f.perform task) = inHand f :=
            inHand_of_left hdone fun htask p source t' hp h => hkept ⟨htask, p, source, t', hp, h⟩
          rw [hleft] at hheld
          exact .inr ⟨hheld, not_asksFor hheld ht, hrest⟩

/-- **A table that is answered without asking was sent by its address when that was last asked,**
unless the address is the word under which the custom catalog is kept. A filler that asks also reports
what came of it, so one that answers and is the same as before has not asked. -/
theorem performAll_lastSent {settings : Settings.Loader} {plugin : Option Settings.Plugin}
    {site : Site} {tasks : List Task} {f : Filler}
    (hf : f = ({ settings, plugin, site } : Filler).performAll tasks) (hp : f.plugin = some p)
    (hmode : p.customMode.truthy = false) (hurl : p.configUrl = .text u) (hne : u ≠ "")
    (hcustom : u ≠ Filler.customSource) (hload : f.load = (f, .ok t)) :
    LastSent u t { settings, plugin, site } tasks := by
  have htruthy : p.configUrl.truthy = true := by
    rw [hurl]
    simpa [Value.truthy, Scalar.truthy] using hne
  have hfrom := inHandFrom_of_load hp hmode htruthy hload
  have htable : t = f.table := by
    rw [load_of_inHandFrom hp hmode htruthy hfrom] at hload
    exact (Except.ok.inj (Prod.mk.inj hload).2).symm
  obtain ⟨u', hu', hsource, ht⟩ := hfrom
  obtain rfl : u = u' := by
    rw [hurl] at hu'
    cases hu'
    rfl
  have hheld : inHand f = (some u, t) := by rw [inHand, hsource, htable]
  rw [← htable] at ht
  subst hf
  rcases lastSent_or_held hcustom ht tasks hheld with hsent | ⟨hheld, -⟩
  · exact hsent
  · cases hheld

/-- Two addresses and a custom catalog. The first address sends another table each time, the second
one none. -/
def sampleSite : Site where
  base := "http://s"
  routes :=
    [("http://s/own", [.answer 200 "\x7b\"own\": \x7b\"hi\": \"/own/hi.png\"\x7d\x7d"]),
     ("http://s/one",
      [.answer 200 "\x7b\"one\": \x7b\"hi\": \"/one/hi.png\"\x7d\x7d",
       .answer 200 "\x7b\"one\": \x7b\"hi\": \"/one/new.png\"\x7d\x7d"]),
     ("http://s/two", [.broken])]

/-- Where the custom catalog of the sample lies. -/
def sampleSettings : Settings.Loader := { customStickersPath := .text "/own" }

/-- Custom mode comes in between, so the address is asked twice. The table of the second time is still
in hand after another address was asked in vain. -/
theorem performAll_lastSent_sampleSite :
    let one : Settings.Plugin := { configUrl := .text "/one" }
    let start : Filler := { settings := sampleSettings, plugin := some one, site := sampleSite }
    let tasks : List Task :=
      [.load, .take (some { customMode := .bool true }), .load, .take (some one),
        .handle (some ":one_hi:"), .take (some { configUrl := .text "/two" }), .load,
        .take (some one)]
    (start.performAll tasks).load =
        (start.performAll tasks, .ok [(":one_hi:", "/one/new.png")]) ∧
      LastSent "/one" [(":one_hi:", "/one/new.png")] start tasks := by
  intro one start tasks
  have hp : (start.performAll tasks).plugin = some one := rfl
  have htable : (start.performAll tasks).table = [(":one_hi:", "/one/new.png")] := by
    decide +kernel
  have hfrom : InHandFrom (start.performAll tasks) (.text "/one") :=
    ⟨"/one", rfl, by decide +kernel, by rw [htable]; decide⟩
  have hload : (start.performAll tasks).load =
      (start.performAll tasks, .ok [(":one_hi:", "/one/new.png")]) := by
    rw [← htable]
    exact load_of_inHandFrom hp rfl (by decide) hfrom
  exact ⟨hload, performAll_lastSent rfl hp rfl rfl (by decide) (by decide) hload⟩

/-- Not every table that is answered without asking was sent by its address: custom mode keeps its
table under a word, and the settings then name that word as their address. -/
theorem not_lastSent :
    ¬∀ (settings : Settings.Loader) (plugin : Option Settings.Plugin) (site : Site)
        (tasks : List Task) (f : Filler) (p : Settings.Plugin) (u : String) (t : Table),
      f = ({ settings, plugin, site } : Filler).performAll tasks → f.plugin = some p →
        p.customMode.truthy = false → p.configUrl = .text u → u ≠ "" → f.load = (f, .ok t) →
          LastSent u t { settings, plugin, site } tasks := by
  intro h
  let start : Filler :=
    { settings := sampleSettings, plugin := some { customMode := .bool true }, site := sampleSite }
  let word : Settings.Plugin := { configUrl := .text "custom" }
  have hp : (start.performAll [.load, .take (some word)]).plugin = some word := rfl
  have hfrom : InHandFrom (start.performAll [.load, .take (some word)]) (.text "custom") :=
    ⟨"custom", rfl, by decide +kernel, by decide +kernel⟩
  have hload := load_of_inHandFrom hp rfl (by decide) hfrom
  have hsent : LastSent "custom" _ start [.load, .take (some word)] :=
    h sampleSettings _ sampleSite _ _ word "custom" _ rfl hp rfl rfl (by decide) hload
  -- the first task asks in custom mode, and the second one does not ask at all
  cases hsent with
  | here hasks =>
      obtain ⟨-, p, hp, hmode, -⟩ := hasks
      cases hp
      cases hmode
  | later hsent =>
      cases hsent with
      | here hasks => cases hasks.1
      | later hsent => cases hsent

end StickerPages.Content
