import StickerPages.Settings.Keeper

/-!
# What is kept, and under which path

A keeper keeps the map of one file and the configuration of one file, and one path for the two of
them. Whichever was read last has set the path. So what was read from one file can come to lie under
the path of another: ask for the map of `a`, then for the configuration of `b`, and the map of `a`
lies under `b`. Whoever then asks for the map of `b` is given that of `a`.

`Trail` is the account of a keeper by paths alone: from where its map was read, from where its
configuration was read, and under which path the two lie. It says of every question whether the
answer is kept, and if so, from which file. That the keeper's answers are those of a new one about
the file so named is one invariant (`Keeper.Follows`), kept by every question. What it comes to is
`askAll_afresh`: answers are those of a new keeper, except where something is misfiled.
-/

namespace StickerPages.Settings

/-! ## Questions -/

/-- What a keeper can be asked. -/
inductive Question where
  | map (path : String)
  | mapAnew (path : String)
  | value (keys path : String) (fallback : Value)
  | app (path : String) (anew : Bool)
  | layout (path : String)
  | plugin (path : String)
  /-- To forget everything. -/
  | forget

/-- What it answers. -/
inductive Answer where
  | map (es : Entries)
  | value (v : Value)
  | app (a : App)
  | layout (l : Portion Layout)
  | plugin (p : Portion Plugin)
  | forgotten

/-- The two things that a keeper keeps. -/
inductive Half where
  | map
  | app
deriving DecidableEq

namespace Question

/-- The file a question is about. -/
def path? : Question → Option String
  | .map p | .mapAnew p | .value _ p _ | .app p _ | .layout p | .plugin p => some p
  | .forget => none

/-- What has to be read to answer a question. -/
def half? : Question → Option Half
  | .map _ | .mapAnew _ | .value .. => some .map
  | .app .. | .layout _ | .plugin _ => some .app
  | .forget => none

/-- What is kept will do for an answer. -/
def takesKept : Question → Bool
  | .mapAnew _ | .app _ true | .forget => false
  | _ => true

/-- The same question about another file. -/
def about (path : String) : Question → Question
  | .map _ => .map path
  | .mapAnew _ => .mapAnew path
  | .value keys _ fallback => .value keys path fallback
  | .app _ anew => .app path anew
  | .layout _ => .layout path
  | .plugin _ => .plugin path
  | .forget => .forget

/-- The answer that is in a file. -/
def answerIn (d : Disk) (env : Environment) (path : String) : Question → Answer
  | .map _ | .mapAnew _ => .map (Keeper.readMap d path).1
  | .value keys _ fallback =>
    .value (Keeper.valueAt fallback (.map (Keeper.readMap d path).1)
      ((keys.toList.splitOn '.').map String.ofList))
  | .app _ _ => .app (Keeper.appOrDefault d env path).1
  | .layout _ => .layout (Keeper.appOrDefault d env path).1.layout
  | .plugin _ => .plugin (Keeper.appOrDefault d env path).1.plugin
  | .forget => .forgotten

end Question

namespace Keeper

/-- Puts a question to a keeper. -/
def ask (k : Keeper) : Question → Keeper × Answer
  | .map p => let (k, kept) := k.load p; (k, .map kept.value)
  | .mapAnew p => let (k, kept) := k.reload p; (k, .map kept.value)
  | .value keys p fallback => let (k, v) := k.get keys p fallback; (k, .value v)
  | .app p anew => let (k, kept) := k.loadApp p anew; (k, .app kept.value)
  | .layout p => let (k, kept) := k.loadApp p false; (k, .layout kept.value.layout)
  | .plugin p => let (k, kept) := k.loadApp p false; (k, .plugin kept.value.plugin)
  | .forget => (k.clear, .forgotten)

/-- Puts questions to a keeper, one after the other. -/
def askAll (k : Keeper) (qs : List Question) : Keeper := qs.foldl (fun k q => (k.ask q).1) k

/-- A keeper that has not been asked anything. -/
def starting (d : Disk) (env : Environment) : Keeper := { disk := d, env }

end Keeper

/-! ## The trail -/

/-- Where what is kept was read. -/
structure Trail where
  /-- The file whose map is kept. -/
  map : Option String := none
  /-- The file whose configuration is kept. -/
  app : Option String := none
  /-- The path under which both of them are kept. -/
  path : Option String := none

namespace Trail

/-- The file from which one of the two was read. -/
def origin (t : Trail) : Half → Option String
  | .map => t.map
  | .app => t.app

/-- The file whose answer is kept for a question, if one is. -/
def kept? (t : Trail) (q : Question) : Option String :=
  if q.takesKept && t.path == q.path? then q.half?.bind t.origin else none

/-- The file that a question is answered from; to forget takes none. -/
def source (t : Trail) (q : Question) : String := ((t.kept? q).or q.path?).getD ""

/-- Another file than the one in question, whose answer is kept for it. -/
def misfiled? (t : Trail) (q : Question) : Option String :=
  (t.kept? q).filter fun p => q.path? != some p

/-- The map of a file has been read anew; it is kept if it could be read. -/
def noteMap (t : Trail) (d : Disk) (path : String) : Trail :=
  if (Keeper.readMap d path).2.1 then { t with map := some path, path := some path } else t

/-- The configuration of a file has been read anew. -/
def noteApp (t : Trail) (path : String) : Trail := { t with app := some path, path := some path }

/-- The trail after a question. What is kept for it stays as it is; otherwise its file is read. -/
def after (d : Disk) (t : Trail) (q : Question) : Trail :=
  if (t.kept? q).isSome then t
  else
    match q with
    | .map p | .value _ p _ => t.noteMap d p
    | .mapAnew p => ({} : Trail).noteMap d p
    | .app p _ | .layout p | .plugin p => t.noteApp p
    | .forget => {}

/-- The trail of a keeper that was asked these questions. -/
def ofAll (d : Disk) (qs : List Question) : Trail := qs.foldl (after d) {}

end Trail

/-! ## A keeper follows its trail -/

namespace Trail

variable {t : Trail} {path : String}

theorem kept?_map : t.kept? (.map path) = if t.path = some path then t.map else none := by
  simp [kept?, Question.takesKept, Question.path?, Question.half?, origin]

theorem kept?_app : t.kept? (.app path false) = if t.path = some path then t.app else none := by
  simp [kept?, Question.takesKept, Question.path?, Question.half?, origin]

/-- What does not take what is kept finds nothing kept. -/
theorem kept?_anew {q : Question} (h : q.takesKept = false) : t.kept? q = none := by
  simp [kept?, h]

theorem source_eq {q : Question} (h : q.path? = some path) :
    t.source q = (t.kept? q).getD path := by
  unfold source
  rw [h]
  cases t.kept? q <;> rfl

end Trail

namespace Keeper

/-- What is kept is what stands in the files that the trail names. -/
structure Follows (d : Disk) (e : Environment) (k : Keeper) (t : Trail) : Prop where
  disk : k.disk = d
  env : k.env = e
  path : k.path = t.path
  map : k.entries.map Kept.value = t.map.map fun p => (readMap d p).1
  app : k.app.map Kept.value = t.app.map fun p => (appOrDefault d e p).1

variable {d : Disk} {e : Environment} {k : Keeper} {t : Trail}

theorem follows_starting : Follows d e (starting d e) {} := ⟨rfl, rfl, rfl, rfl, rfl⟩

namespace Follows

theorem clear (h : Follows d e k t) : Follows d e k.clear {} := ⟨h.disk, h.env, rfl, rfl, rfl⟩

/-- A map that is read anew is the one in the file, -/
theorem loadAnew (h : Follows d e k t) (p : String) :
    Follows d e (load.loadAnew k p).1 (t.noteMap d p) ∧
      (load.loadAnew k p).2.value = (readMap d p).1 := by
  obtain ⟨rfl, rfl, hpath, hmap, happ⟩ := h
  refine ⟨?_, rfl⟩
  unfold Trail.noteMap load.loadAnew
  rcases hread : readMap k.disk p with ⟨es, keeps, log⟩
  cases keeps with
  | true => exact ⟨rfl, rfl, rfl, by rw [if_pos rfl, Option.map_some, hread]; rfl, happ⟩
  | false => exact ⟨rfl, rfl, hpath, hmap, happ⟩

/-- and so is a configuration. -/
theorem loadAppAnew (h : Follows d e k t) (p : String) :
    Follows d e (k.loadAppAnew p).1 (t.noteApp p) ∧
      (k.loadAppAnew p).2.value = (appOrDefault d e p).1 := by
  obtain ⟨rfl, rfl, hpath, hmap, happ⟩ := h
  exact ⟨⟨rfl, rfl, rfl, hmap, rfl⟩, rfl⟩

/-- A map that is asked for is the one that is kept, or else the one in the file. -/
theorem load (h : Follows d e k t) (p : String) :
    Follows d e (k.load p).1 (t.after d (.map p)) ∧
      (k.load p).2.value = (readMap d (t.source (.map p))).1 := by
  have hmap := h.map
  unfold Trail.after Keeper.load
  rw [Trail.source_eq rfl, Trail.kept?_map, ← h.path]
  cases hentries : k.entries with
  | none =>
      have hnone : t.map = none := by simpa [hentries] using hmap.symm
      simpa [hnone] using h.loadAnew p
  | some kept =>
      obtain ⟨q, hq, hkept⟩ : ∃ q, t.map = some q ∧ kept.value = (readMap d q).1 := by
        cases ht : t.map with
        | none => simp [hentries, ht] at hmap
        | some q => exact ⟨q, rfl, by simpa [hentries, ht] using hmap⟩
      by_cases hpath : k.path = some p
      · simpa [hpath, hq] using ⟨h, hkept⟩
      · simpa [hpath, hq] using h.loadAnew p

/-- A configuration likewise, unless it is to be read anew. -/
theorem loadApp (h : Follows d e k t) (p : String) (anew : Bool) :
    Follows d e (k.loadApp p anew).1 (t.after d (.app p anew)) ∧
      (k.loadApp p anew).2.value = (appOrDefault d e (t.source (.app p anew))).1 := by
  have happ := h.app
  unfold Trail.after Keeper.loadApp
  rw [Trail.source_eq rfl]
  cases anew with
  | true =>
      rw [Trail.kept?_anew rfl]
      cases hk : k.app <;> simpa [hk] using h.loadAppAnew p
  | false =>
      rw [Trail.kept?_app, ← h.path]
      cases hk : k.app with
      | none =>
          have hnone : t.app = none := by simpa [hk] using happ.symm
          simpa [hnone] using h.loadAppAnew p
      | some kept =>
          obtain ⟨q, hq, hkept⟩ : ∃ q, t.app = some q ∧ kept.value = (appOrDefault d e q).1 := by
            cases ht : t.app with
            | none => simp [hk, ht] at happ
            | some q => exact ⟨q, rfl, by simpa [hk, ht] using happ⟩
          by_cases hpath : k.path = some p
          · simpa [hpath, hq] using ⟨h, hkept⟩
          · simpa [hpath, hq] using h.loadAppAnew p

/-- Every question is answered from the file that the trail names, and keeps the trail. -/
theorem ask (h : Follows d e k t) (q : Question) :
    Follows d e (k.ask q).1 (t.after d q) ∧ (k.ask q).2 = q.answerIn d e (t.source q) := by
  cases q with
  | map p =>
      obtain ⟨hnext, hvalue⟩ := h.load p
      exact ⟨hnext, congrArg Answer.map hvalue⟩
  | mapAnew p =>
      obtain ⟨hnext, hvalue⟩ := h.clear.load p
      exact ⟨hnext, congrArg Answer.map hvalue⟩
  | value keys p fallback =>
      obtain ⟨hnext, hvalue⟩ := h.load p
      exact ⟨hnext, congrArg (fun es => Answer.value (valueAt fallback (.map es) _)) hvalue⟩
  | app p anew =>
      obtain ⟨hnext, hvalue⟩ := h.loadApp p anew
      exact ⟨hnext, congrArg Answer.app hvalue⟩
  | layout p =>
      obtain ⟨hnext, hvalue⟩ := h.loadApp p false
      exact ⟨hnext, congrArg (fun a : App => Answer.layout a.layout) hvalue⟩
  | plugin p =>
      obtain ⟨hnext, hvalue⟩ := h.loadApp p false
      exact ⟨hnext, congrArg (fun a : App => Answer.plugin a.plugin) hvalue⟩
  | forget => exact ⟨h.clear, rfl⟩

theorem askAll (h : Follows d e k t) (qs : List Question) :
    Follows d e (k.askAll qs) (qs.foldl (Trail.after d) t) := by
  induction qs generalizing k t with
  | nil => exact h
  | cons q r ih => exact ih (h.ask q).1

end Follows

end Keeper

/-! ## How something comes to be misfiled -/

namespace Trail

/-- What a trail names was asked for, and its one path is that of the half read last. -/
structure Explained (qs : List Question) (t : Trail) : Prop where
  origin : ∀ half p, t.origin half = some p → ∃ q ∈ qs, q.half? = some half ∧ q.path? = some p
  path : ∀ p, t.path = some p → ∃ half, t.origin half = some p

variable {d : Disk} {t : Trail} {qs : List Question} {q : Question}

theorem explained_empty : Explained qs {} where
  origin half p h := by cases half <;> cases h
  path p h := nomatch h

namespace Explained

theorem mono (h : Explained qs t) (q : Question) : Explained (qs ++ [q]) t where
  origin half p hp := by
    obtain ⟨r, hr, hrest⟩ := h.origin half p hp
    exact ⟨r, List.mem_append_left _ hr, hrest⟩
  path := h.path

theorem noteMap {p : String} (h : Explained qs t) (hq : q ∈ qs) (hhalf : q.half? = some .map)
    (hpath : q.path? = some p) : Explained qs (t.noteMap d p) := by
  unfold Trail.noteMap
  split
  · refine ⟨fun half r hr => ?_, fun r hr => ⟨.map, hr⟩⟩
    cases half with
    | map => exact ⟨q, hq, hhalf, hpath.trans hr⟩
    | app => exact h.origin .app r hr
  · exact h

theorem noteApp {p : String} (h : Explained qs t) (hq : q ∈ qs) (hhalf : q.half? = some .app)
    (hpath : q.path? = some p) : Explained qs (t.noteApp p) := by
  refine ⟨fun half r hr => ?_, fun r hr => ⟨.app, hr⟩⟩
  cases half with
  | map => exact h.origin .map r hr
  | app => exact ⟨q, hq, hhalf, hpath.trans hr⟩

theorem after (h : Explained qs t) (q : Question) : Explained (qs ++ [q]) (t.after d q) := by
  have hq : q ∈ qs ++ [q] := by simp
  unfold Trail.after
  split
  · exact h.mono q
  · cases q with
    | map p => exact (h.mono _).noteMap hq rfl rfl
    | value keys p fallback => exact (h.mono _).noteMap hq rfl rfl
    | mapAnew p => exact explained_empty.noteMap hq rfl rfl
    | app p anew => exact (h.mono _).noteApp hq rfl rfl
    | layout p => exact (h.mono _).noteApp hq rfl rfl
    | plugin p => exact (h.mono _).noteApp hq rfl rfl
    | forget => exact explained_empty

theorem afterAll (h : Explained qs t) (rs : List Question) :
    Explained (qs ++ rs) (rs.foldl (Trail.after d) t) := by
  induction rs generalizing qs t with
  | nil => simpa using h
  | cons q r ih => simpa using ih (h.after q)

end Explained

theorem explained_ofAll : Explained qs (ofAll d qs) :=
  List.nil_append qs ▸ (explained_empty : Explained [] {}).afterAll qs

/-- Something is misfiled only where the same half was read from another file, and the other half
from the file in question. -/
theorem Explained.misfiled {p : String} (h : Explained qs t) (hp : t.misfiled? q = some p) :
    t.kept? q = some p ∧ q.path? ≠ some p ∧
      (∃ r ∈ qs, r.half? = q.half? ∧ r.path? = some p) ∧
      ∃ r ∈ qs, r.half? ≠ q.half? ∧ r.path? = q.path? := by
  unfold misfiled? at hp
  rw [Option.filter_eq_some_iff] at hp
  obtain ⟨hkept, hne⟩ := hp
  have hother : q.path? ≠ some p := by simpa using hne
  have hkept' := hkept
  unfold kept? at hkept'
  split at hkept'
  · next hfound =>
    obtain ⟨half, hhalf, horigin⟩ := Option.bind_eq_some_iff.mp hkept'
    refine ⟨hkept, hother, hhalf ▸ h.origin half p horigin, ?_⟩
    have hpath : t.path = q.path? := by simpa using (Bool.and_eq_true_iff.mp hfound).2
    -- the path is that of the half read last, which cannot be the half in question
    cases hq : q.path? with
    | none => cases q <;> simp [Question.path?, Question.half?] at hq hhalf
    | some r =>
        obtain ⟨half', horigin'⟩ := h.path r (hpath.trans hq)
        obtain ⟨s, hs, hshalf, hspath⟩ := h.origin half' r horigin'
        refine ⟨s, hs, fun heq => ?_, hspath⟩
        have hsame : half' = half := by rw [hshalf, hhalf] at heq; exact Option.some.inj heq
        rw [hsame, horigin] at horigin'
        exact hother (hq.trans horigin'.symm)
  · cases hkept'

end Trail

/-! ## What a keeper answers -/

/-- A new keeper answers from the file in question. -/
theorem Keeper.ask_starting (d : Disk) (e : Environment) (q : Question) :
    ((starting d e).ask q).2 = q.answerIn d e (q.path?.getD "") := by
  have hkept : ({} : Trail).kept? q = none := by
    cases h : q.half? with
    | none => simp [Trail.kept?, h]
    | some half => cases half <;> simp [Trail.kept?, h, Trail.origin]
  rw [(follows_starting.ask q).2, Trail.source, hkept, Option.none_or]

theorem Question.answerIn_about (q : Question) (d : Disk) (e : Environment) (p r : String) :
    (q.about p).answerIn d e r = q.answerIn d e r := by cases q <;> rfl

/-- **Keeping things changes no answer, unless they are misfiled.** Whatever was asked before, a
keeper answers as a new one would, except where the trail says that the answer of another file lies
under the path in question: then that file's answer is given. It takes an earlier question about that
file for the same half, and an earlier one about the file in question for the other half. -/
theorem askAll_afresh (d : Disk) (e : Environment) (qs : List Question) (q : Question) :
    ((Trail.ofAll d qs).misfiled? q = none →
        (((Keeper.starting d e).askAll qs).ask q).2 = ((Keeper.starting d e).ask q).2) ∧
      ∀ p, (Trail.ofAll d qs).misfiled? q = some p →
        (((Keeper.starting d e).askAll qs).ask q).2 = ((Keeper.starting d e).ask (q.about p)).2 ∧
          q.path? ≠ some p ∧
          (∃ r ∈ qs, r.half? = q.half? ∧ r.path? = some p) ∧
          ∃ r ∈ qs, r.half? ≠ q.half? ∧ r.path? = q.path? := by
  have hanswer : (((Keeper.starting d e).askAll qs).ask q).2 =
      q.answerIn d e ((Trail.ofAll d qs).source q) :=
    ((Keeper.follows_starting.askAll qs).ask q).2
  rw [hanswer, Keeper.ask_starting]
  constructor
  · intro hfine
    have hsource : (Trail.ofAll d qs).source q = q.path?.getD "" := by
      unfold Trail.misfiled? at hfine
      unfold Trail.source
      cases hkept : (Trail.ofAll d qs).kept? q with
      | none => rw [Option.none_or]
      | some p =>
          have hpath : q.path? = some p := by simpa [hkept] using hfine
          simp [hpath]
    rw [hsource]
  · intro p hp
    obtain ⟨hkept, hcause⟩ := Trail.explained_ofAll.misfiled hp
    refine ⟨?_, hcause⟩
    have hpath : (q.about p).path? = some p := by
      cases q with
      | forget => simp [Trail.kept?, Question.takesKept] at hkept
      | _ => rfl
    have hsource : (Trail.ofAll d qs).source q = p := by simp [Trail.source, hkept]
    rw [Keeper.ask_starting, Question.answerIn_about, hpath, Option.getD_some, hsource]

/-- Two files with different maps. -/
def twoFiles : Disk where
  files := [(["a.yaml"], "debug: yes".toUTF8), (["b.yaml"], "".toUTF8)]

/-- The map of one file, and then the configuration of another, are asked for: the map of the first
is misfiled under the second. -/
theorem askAll_misfiled :
    ¬ ∀ (d : Disk) (e : Environment) (qs : List Question) (q : Question),
      (((Keeper.starting d e).askAll qs).ask q).2 = ((Keeper.starting d e).ask q).2 := by
  intro h
  have hmap := h twoFiles [] [.map "a.yaml", .app "b.yaml" false] (.map "b.yaml")
  have hkept : (((Keeper.starting twoFiles []).askAll
      [.map "a.yaml", .app "b.yaml" false]).load "b.yaml").2.value.length = 1 := by decide +kernel
  have hfresh : ((Keeper.starting twoFiles []).load "b.yaml").2.value.length = 0 := by
    decide +kernel
  have hsize : (((Keeper.starting twoFiles []).askAll
      [.map "a.yaml", .app "b.yaml" false]).load "b.yaml").2.value.length =
        ((Keeper.starting twoFiles []).load "b.yaml").2.value.length :=
    congrArg List.length (Answer.map.inj hmap)
  rw [hkept, hfresh] at hsize
  cases hsize

end StickerPages.Settings
