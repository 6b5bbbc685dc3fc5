import Mathlib.Data.List.Dedup
import StickerPages.Proofs.Arrangements
import StickerPages.Proofs.Schedules
import StickerPages.Proofs.Spellings

/-!
# Times that can be kept

A configuration is checked so that its times can be kept: the wait is a positive number of
milliseconds, and the delays are such numbers, nothing included (`Timely`). Then a notice makes one
job that lies ahead, and a start makes one job for each different delay, however often the delay is
given (`jobs_startPacing`).

The check goes through what stands for the delays, and takes what does not count as present for an
empty list. A start goes through what was kept. So null, false and zero pass the check and cannot be
gone through, and with them there is no start (`ofFile_appointments`). An empty text and an empty map
can, and a map from numbers passes for a list of its keys (`forms_of_itemsOf?`).
-/

namespace StickerPages.Live

open Timing Settings

variable {τ : Type} {s : Session τ} {d : Disk} {env : Environment} {path : String} {a : App}

/-! ## Jobs of a start -/

/-- The job of a delay. -/
def appointment (now delay : Nat) : Job Duty := ⟨delayedJob delay, now + delay, .sweep .delayed⟩

theorem jobs_foldl_delay (delays : List Nat) : ∀ x : Pacer × Timer Duty,
    (delays.foldl (Pacer.delay Duty.sweep) x).2.jobs =
      (x.2.jobs.filter fun j => ∀ d ∈ delays, j.id ≠ delayedJob d) ++
        delays.dedup.map (appointment x.2.now) := by
  induction delays with
  | nil => intro x; simp
  | cons d r ih =>
      intro x
      have hstep : (Pacer.delay Duty.sweep x d).2.jobs =
        (x.2.jobs.filter (·.id != delayedJob d)) ++ [appointment x.2.now d] := rfl
      have hbefore : (x.2.jobs.filter (·.id != delayedJob d)).filter
          (fun j => ∀ e ∈ r, j.id ≠ delayedJob e) =
            x.2.jobs.filter fun j => ∀ e ∈ d :: r, j.id ≠ delayedJob e := by
        rw [List.filter_filter]
        refine List.filter_congr fun j _ => ?_
        rw [Bool.eq_iff_iff]
        simp [and_comm]
      rw [List.foldl_cons, ih, hstep, List.filter_append, hbefore, List.append_assoc]
      congr 1
      -- the job of this delay gives way if the delay comes once more
      by_cases hd : d ∈ r
      · rw [List.dedup_cons_of_mem hd, List.filter_cons_of_neg, List.filter_nil]
        · rfl
        · rw [decide_eq_true_iff]
          exact fun hnone => hnone d hd rfl
      · rw [List.dedup_cons_of_notMem hd, List.filter_cons_of_pos, List.filter_nil]
        · rfl
        · rw [decide_eq_true_iff]
          intro e he hid
          obtain rfl : d = e := delayedJob_inj hid
          exact hd he

/-- **A start makes one job for each different delay**, and leaves jobs of other names alone. -/
theorem jobs_startPacing {delays : List Nat} (h : s.delays = (delays, true)) :
    s.startPacing.1.timer.jobs =
      (s.timer.jobs.filter fun j => ∀ d ∈ delays, j.id ≠ delayedJob d) ++
        delays.dedup.map (appointment s.timer.now) := by
  rw [timer_startPacing, h]
  exact jobs_foldl_delay delays (s.pacer, s.timer.start)

/-! ## What the check lets through -/

/-- The times of a layout are numbers of milliseconds, and the wait is not nothing. -/
structure Timely (layout : Settings.Layout) (wait : Nat) (delays : List Nat) : Prop where
  debounce_eq : layout.debounceMs = .int wait
  positive : 0 < wait
  delays_eq : itemsOf? layout.delayedSweepsMs = some (delays.map fun d : Nat => .int d)

theorem eq_int_of_isMillis (least : Nat) {v : Value} (h : isMillis least v = true) :
    ∃ n : Nat, least ≤ n ∧ v = .int n := by
  unfold isMillis at h
  split at h
  · next n =>
    have hn : (least : Int) ≤ n := of_decide_eq_true h
    obtain ⟨m, rfl⟩ := Int.eq_ofNat_of_zero_le (Int.le_trans (Int.natCast_nonneg least) hn)
    exact ⟨m, Int.ofNat_le.mp hn, rfl⟩
  · cases h

theorem eq_map_int {xs : List Value} (h : ∀ x ∈ xs, isMillis 0 x = true) :
    ∃ ns : List Nat, xs = ns.map fun n : Nat => .int n := by
  induction xs with
  | nil => exact ⟨[], rfl⟩
  | cons x r ih =>
      obtain ⟨n, -, rfl⟩ := eq_int_of_isMillis 0 (h x List.mem_cons_self)
      obtain ⟨ns, rfl⟩ := ih fun y hy => h y (List.mem_cons_of_mem _ hy)
      exact ⟨n :: ns, rfl⟩

/-- What can be gone through is gone through by what the check has seen. -/
theorem items?_eq {v : Value} {xs ys : List Value} (h : itemsOf? v = some xs)
    (hitems : v.items? = some ys) : ys = xs := by
  unfold itemsOf? Value.orElse at h
  split at h
  · exact Option.some.inj (hitems.symm.trans h)
  · next hfalsy =>
    obtain rfl : [] = xs := Option.some.inj h
    cases v with
    | list zs =>
        cases hitems
        simpa [Value.truthy] using hfalsy
    | map es =>
        cases hitems
        simpa [Value.truthy] using hfalsy
    | scalar c =>
        cases c with
        | text t =>
            cases hitems
            simpa [Value.truthy, Scalar.truthy] using hfalsy
        | _ => cases hitems

/-- What passes the check for numbers: a list of them, a map from them, or a scalar that does not
count as present. -/
theorem forms_of_itemsOf? {v : Value} {ns : List Nat}
    (h : itemsOf? v = some (ns.map fun n : Nat => .int n)) :
    v = .list (ns.map fun n : Nat => .int n) ∨
      (∃ es, v = .map es ∧ es.map (·.1) = ns.map fun n : Nat => .int n) ∨
      ns = [] ∧ ∃ c, v = .scalar c ∧ c.truthy = false := by
  cases v with
  | list xs =>
      have hxs : itemsOf? (.list xs) = some xs := by cases xs <;> rfl
      exact .inl (congrArg Value.list (Option.some.inj (hxs.symm.trans h)))
  | map es =>
      have hes : itemsOf? (.map es) = some (es.map fun e => .scalar e.1) := by cases es <;> rfl
      have hkeys := Option.some.inj (hes.symm.trans h)
      refine .inr (.inl ⟨es, rfl, ?_⟩)
      have hinj : Function.Injective Value.scalar := fun _ _ => Value.scalar.inj
      apply List.map_injective_iff.mpr hinj
      rw [List.map_map, List.map_map]
      exact hkeys
  | scalar c =>
      cases hc : c.truthy with
      | false =>
          have hnone : itemsOf? (.scalar c) = some [] := by
            simp [itemsOf?, Value.orElse, Value.truthy, hc, Value.items?]
          have hns := Option.some.inj (hnone.symm.trans h)
          exact .inr (.inr ⟨by simpa using hns.symm, c, rfl, hc⟩)
      | true =>
          have hsome : itemsOf? (.scalar c) = (Value.scalar c).items? := by
            simp [itemsOf?, Value.orElse, Value.truthy, hc]
          rw [hsome] at h
          cases c with
          | text t =>
              -- the characters of a text are texts, and an empty text does not count
              have hchars := Option.some.inj h
              cases ns with
              | nil => simp_all [Scalar.truthy]
              | cons n r =>
                  cases ht : t.toList with
                  | nil => rw [ht] at hchars; cases hchars
                  | cons x y => rw [ht] at hchars; cases hchars
          | _ => cases h

/-- The environment has nothing to say about the layout. -/
theorem layout_under {b : App} (h : a.under env = .ok b) : b.layout = a.layout := by
  obtain ⟨system, plugin, layout, loader⟩ := a
  unfold App.under at h
  cases hurl : env.valueOf? "STICKER_CONFIG_URL" <;>
    cases hlevel : env.valueOf? "STICKER_LOG_LEVEL" <;> cases plugin <;> cases system <;>
    rw [hurl, hlevel] at h <;> cases h <;> rfl

theorem layout_default (env : Environment) : (App.default env).layout = .section {} := by
  unfold App.default
  cases h : App.under env {} with
  | ok a => exact layout_under h
  | error f => rfl

/-- The section that passed the check is read as it was checked. -/
theorem timely_ofEntries {es fs : Entries} {xs : List Value} (h : Timed es fs xs)
    (honce : fs.TextsOnce) : ∃ wait delays, Timely (ofEntries Settings.Layout fs) wait delays := by
  have hfield (f : Settings.Field Settings.Layout) (hf : f ∈ Section.fields) {n : String}
      (hspellings : f.spellings = [n]) : f.get (ofEntries Settings.Layout fs) =
        (fs.at? n).getD (f.get Section.default) := by
    rw [get_ofEntries hf, hspellings, lastUnder_single honce]
  have hwait : (ofEntries Settings.Layout fs).debounceMs = debounceOf fs :=
    hfield Section.fields[6] (List.getElem_mem _) (by decide)
  have hdelays : (ofEntries Settings.Layout fs).delayedSweepsMs =
      (fs.at? "delayed_sweeps_ms").getD (.list [.int 300, .int 1000]) :=
    hfield Section.fields[7] (List.getElem_mem _) (by decide)
  obtain ⟨wait, hpositive, hwait'⟩ := eq_int_of_isMillis 1 h.debounce
  obtain ⟨ns, rfl⟩ := eq_map_int h.delays
  have hitems := h.items
  rw [delaysOf] at hitems
  cases hat : fs.at? "delayed_sweeps_ms" with
  | none => exact ⟨wait, [300, 1000], hwait.trans hwait', hpositive, by rw [hdelays, hat]; rfl⟩
  | some v =>
      rw [hat] at hitems
      exact ⟨wait, ns, hwait.trans hwait', hpositive, by rw [hdelays, hat]; exact hitems⟩

/-- **What is read from a checked section keeps the promise of the check.** -/
theorem ofFile_timely (hread : (App.ofFile d env path).2 = .ok a) :
    ∃ layout wait delays, a.layout = .section layout ∧ Timely layout wait delays := by
  cases hholds : d.holds (Path.ofString path) with
  | false =>
      rw [ofFile_of_absent hholds] at hread
      obtain rfl := Except.ok.inj hread
      exact ⟨{}, 100, [300, 1000], layout_default env, rfl, by decide, rfl⟩
  | true =>
      obtain ⟨hunder, remarks, hcheck, -⟩ := ofFile_accepted hholds hread
      obtain ⟨fs, xs, htimed⟩ := check_ok_iff.mp ⟨remarks, hcheck⟩
      obtain ⟨wait, delays, htimely⟩ := timely_ofEntries htimed
        (textsOnce_of_entries (sectionsOnce_laidIn d _) htimed.section_eq)
      refine ⟨_, wait, delays, ?_, htimely⟩
      rw [layout_under hunder, readApp_portions (textsOnce_laidIn d _)]
      exact portionOf_of_entries htimed.section_eq

/-! ## What becomes of the times -/

/-- A list of texts. -/
def areNames : Value → Bool
  | .list xs => xs.all (·.text?.isSome)
  | _ => false

theorem delays_of_items {v : Value} {delays : List Nat} (hv : s.settings.delayedSweepsMs = v)
    (h : itemsOf? v = some (delays.map fun d : Nat => .int d)) :
    s.delays = if v.items? = none then ([], false) else (delays, true) := by
  cases hitems : v.items? with
  | none => rw [if_pos rfl, Session.delays, hv, hitems]
  | some xs =>
      rw [if_neg (Option.some_ne_none xs)]
      exact delays_eq (by rw [hv, hitems, items?_eq h hitems])

/-- The layout of what was read. -/
def layoutOf? (r : Except Fault App) : Option Settings.Layout :=
  r.toOption.bind fun a => a.layout.section?

theorem layoutOf?_ok {layout : Settings.Layout} (h : a.layout = .section layout) :
    layoutOf? (.ok a) = some layout := by
  simp [layoutOf?, Except.toOption, h, Portion.section?]

/-- A file with three delays, two of them the same. -/
def repeatedDelay : Disk where
  files := [(["config.yaml"], "layout: {debounce_ms: 5, delayed_sweeps_ms: [7, 3, 7]}".toUTF8)]

/-- A session of this layout, a second after its beginning. -/
def laidOut (layout : Settings.Layout) : Session Diary := { restlessSession with settings := layout }

/-- A file that gives null for its delays. -/
def nullDelays : Disk where
  files := [(["config.yaml"], "layout: {delayed_sweeps_ms: null}".toUTF8)]

end StickerPages.Live
