import Mathlib.Data.List.Induction
import Mathlib.Data.List.Perm.Subperm
import Mathlib.Data.List.TakeWhile
import StickerPages.Catalog.Store

/-!
# Cancelling a registration

Every registration is answered with a function that cancels it. The function knows the subscriber and
not the registration: called, it takes the subscriber's earliest entry off, if there is one. With
several registrations of one subscriber that may be the entry of another registration, and if the
function has been called before, it is.

A `Ledger` keeps a store and, beside it, every registration that was ever made. So it can be said
which entries should be left (`standing`) and when they are (`Ledger.Right`): that depends on each
call, and whether a call is to the purpose can be told from the registrations alone (`InTurn`,
`right_cancel_iff`). Whatever is called, no subscriber is left with more entries than it should have,
and as long as no function is called twice it has neither more nor fewer (`Ledger.Once`).
-/

namespace StickerPages.Catalog

/-- A registration: whose it is, and whether its function has been called. -/
structure Registration where
  name : String
  cancelled : Bool := false
deriving DecidableEq, Repr

/-- The subscribers whose registrations have not been cancelled, in the order of the registrations. -/
def standing (made : List Registration) : List String :=
  (made.filter fun r => !r.cancelled).map (·.name)

/-- A store, and every registration that was made with it. -/
structure Ledger where
  store : Store := {}
  made : List Registration := []

/-- What is done with registrations. The function that is called is the one with which the
registration at this place was answered. -/
inductive Step where
  | subscribe (name : String) (manner : Manner)
  | cancel (place : Nat)

/-- Makes a registration, or calls the function of one. -/
def Ledger.step (l : Ledger) : Step → Ledger
  | .subscribe name manner => ⟨l.store.subscribe name manner, l.made ++ [{ name }]⟩
  | .cancel place =>
    match l.made[place]? with
    | some r => ⟨l.store.unsubscribe r.name, l.made.set place { r with cancelled := true }⟩
    | none => l

/-- The ledger of a new store after these steps. -/
def Ledger.ofSteps (steps : List Step) : Ledger := steps.foldl Ledger.step {}

/-- The entries left are those of the registrations that have not been cancelled. -/
def Ledger.Right (l : Ledger) : Prop := l.store.subscribers = standing l.made

/-- A call at this place is to the purpose. If the registration stands, then between the earliest one
of the subscriber that stands and this one there are no others' entries. If it has been cancelled
before, then the subscriber has no registration that stands. -/
def InTurn (made : List Registration) (place : Nat) : Prop :=
  ∀ r ∈ made[place]?,
    if r.cancelled then r.name ∉ standing made
    else ∀ other ∈ (standing (made.take place)).dropWhile (· != r.name), other = r.name

/-- A call at this place is the first one there. -/
def Fresh (made : List Registration) (place : Nat) : Prop :=
  ∀ r ∈ made[place]?, r.cancelled = false

variable {l : Ledger} {made front back : List Registration} {r : Registration} {place : Nat}
  {name : String} {steps : List Step}

/-! ## Taking an entry off -/

theorem concat_eq_cons_iff (v : List String) (name : String) :
    v ++ [name] = name :: v ↔ ∀ other ∈ v, other = name := by
  induction v with
  | nil => simp
  | cons c v ih =>
      rw [List.cons_append, List.cons.injEq, List.forall_mem_cons]
      constructor
      · rintro ⟨rfl, hv⟩
        exact ⟨rfl, ih.mp hv⟩
      · rintro ⟨rfl, hv⟩
        exact ⟨rfl, ih.mpr hv⟩

/-- Taking off the earliest entry of a name is as good as taking off a later one, if there are only
entries of this name from the one to the other. -/
theorem erase_middle_eq_iff (x y : List String) (name : String) :
    (x ++ name :: y).erase name = x ++ y ↔ ∀ other ∈ x.dropWhile (· != name), other = name := by
  have hfront : name ∉ x.takeWhile (· != name) := by
    intro hmem
    simpa using List.mem_takeWhile_imp hmem
  have hfirst := List.head?_dropWhile_not (· != name) x
  have hx := List.takeWhile_append_dropWhile (p := (· != name)) (l := x)
  generalize x.takeWhile (· != name) = u at hx hfront
  generalize x.dropWhile (· != name) = w at hx hfirst ⊢
  subst hx
  rw [List.append_assoc, List.erase_append_right _ hfront, List.append_assoc,
    List.append_cancel_left_eq]
  cases w with
  | nil => simp
  | cons c v =>
      obtain rfl : c = name := by simpa using hfirst
      have hrest : v ++ c :: y = v ++ [c] ++ y := by simp
      rw [List.cons_append, List.erase_cons_head, hrest, List.append_cancel_right_eq,
        concat_eq_cons_iff, List.forall_mem_cons]
      exact ⟨fun hv => ⟨rfl, hv⟩, fun hv => hv.2⟩

/-! ## What should be left -/

theorem standing_append (front back : List Registration) :
    standing (front ++ back) = standing front ++ standing back := by
  rw [standing, List.filter_append, List.map_append, standing, standing]

theorem standing_cons_cancelled (h : r.cancelled = true) (back : List Registration) :
    standing (r :: back) = standing back := by
  rw [standing, List.filter_cons_of_neg (by simp [h]), standing]

theorem standing_cons_standing (h : r.cancelled = false) (back : List Registration) :
    standing (r :: back) = r.name :: standing back := by
  rw [standing, List.filter_cons_of_pos (by simp [h]), List.map_cons, standing]

/-- A call of a function, as it is in the ledger. -/
theorem exists_split (h : made[place]? = some r) :
    ∃ front back, made = front ++ r :: back ∧ front = made.take place ∧
      made.set place { r with cancelled := true } = front ++ { r with cancelled := true } :: back := by
  obtain ⟨hplace, rfl⟩ := List.getElem?_eq_some_iff.mp h
  refine ⟨made.take place, made.drop (place + 1), ?_, rfl, ?_⟩
  · rw [← List.drop_eq_getElem_cons hplace, List.take_append_drop]
  · rw [List.set_eq_take_append_cons_drop, if_pos hplace]

/-- What should be left, before a call and after it. -/
theorem standing_set (h : made[place]? = some r) :
    (r.cancelled = true ∧ standing (made.set place { r with cancelled := true }) = standing made) ∨
      (r.cancelled = false ∧ ∃ y,
        standing made = standing (made.take place) ++ r.name :: y ∧
          standing (made.set place { r with cancelled := true }) =
            standing (made.take place) ++ y) := by
  obtain ⟨front, back, hmade, rfl, hset⟩ := exists_split h
  have hafter : standing (made.set place { r with cancelled := true }) =
      standing (made.take place) ++ standing back := by
    rw [hset, standing_append, standing_cons_cancelled rfl]
  have hbefore : standing made = standing (made.take place) ++ standing (r :: back) := by
    rw [← standing_append, ← hmade]
  cases hr : r.cancelled with
  | true =>
      rw [standing_cons_cancelled hr] at hbefore
      exact .inl ⟨rfl, hafter.trans hbefore.symm⟩
  | false =>
      rw [standing_cons_standing hr] at hbefore
      exact .inr ⟨rfl, standing back, hbefore, hafter⟩

/-! ## One step -/

theorem right_subscribe (h : l.Right) (name : String) (manner : Manner) :
    (l.step (.subscribe name manner)).Right := by
  show l.store.subscribers ++ [name] = standing (l.made ++ [⟨name, false⟩])
  rw [h, standing_append]
  rfl

theorem step_cancel (h : l.made[place]? = some r) :
    l.step (.cancel place) =
      ⟨l.store.unsubscribe r.name, l.made.set place { r with cancelled := true }⟩ := by
  rw [Ledger.step, h]

theorem step_cancel_none (h : l.made[place]? = none) : l.step (.cancel place) = l := by
  rw [Ledger.step, h]

theorem inTurn_iff (h : made[place]? = some r) :
    InTurn made place ↔
      if r.cancelled then r.name ∉ standing made
      else ∀ other ∈ (standing (made.take place)).dropWhile (· != r.name), other = r.name := by
  constructor
  · intro hturn
    exact hturn r h
  · intro hturn r' hr'
    cases h.symm.trans hr'
    exact hturn

/-- **A call leaves what should be left just if it is to the purpose.** -/
theorem right_cancel_iff (h : l.Right) (place : Nat) :
    (l.step (.cancel place)).Right ↔ InTurn l.made place := by
  cases hplace : l.made[place]? with
  | none =>
      rw [step_cancel_none hplace]
      refine iff_of_true h fun r hr => ?_
      cases hplace.symm.trans hr
  | some r =>
      rw [step_cancel hplace, inTurn_iff hplace]
      show l.store.subscribers.erase r.name = _ ↔ _
      rw [h]
      rcases standing_set hplace with ⟨hr, hset⟩ | ⟨hr, y, hmade, hset⟩
      · rw [hset, hr, if_pos rfl]
        exact List.erase_eq_self_iff
      · rw [hset, hmade, hr, if_neg Bool.false_ne_true]
        exact erase_middle_eq_iff _ _ _

/-- A first call takes one entry of the subscriber from what should be left, wherever it stands. -/
theorem perm_standing_set (h : made[place]? = some r) (hr : r.cancelled = false) :
    ((standing made).erase r.name).Perm
      (standing (made.set place { r with cancelled := true })) := by
  rcases standing_set h with ⟨hr', -⟩ | ⟨-, y, hmade, hset⟩
  · rw [hr] at hr'
    cases hr'
  · have hperm : (standing (made.take place) ++ r.name :: y).Perm
        (r.name :: (standing (made.take place) ++ y)) := List.perm_middle
    have herase := hperm.erase r.name
    rwa [List.erase_cons_head, ← hmade, ← hset] at herase

theorem subperm_step (h : l.store.subscribers.Subperm (standing l.made)) (e : Step) :
    (l.step e).store.subscribers.Subperm (standing (l.step e).made) := by
  cases e with
  | subscribe name manner =>
      show (l.store.subscribers ++ [name]).Subperm (standing (l.made ++ [⟨name, false⟩]))
      rw [standing_append]
      exact h.append (List.Subperm.refl [name])
  | cancel place =>
      cases hplace : l.made[place]? with
      | none => rwa [step_cancel_none hplace]
      | some r =>
          rw [step_cancel hplace]
          show (l.store.subscribers.erase r.name).Subperm _
          cases hr : r.cancelled with
          | true =>
              rcases standing_set hplace with ⟨-, hset⟩ | ⟨hr', -⟩
              · rw [hset]
                exact (List.erase_subperm _ _).trans h
              · rw [hr] at hr'
                cases hr'
          | false => exact (h.erase r.name).trans (perm_standing_set hplace hr).subperm

theorem perm_step (h : l.store.subscribers.Perm (standing l.made)) {e : Step}
    (hfresh : ∀ place, e = .cancel place → Fresh l.made place) :
    (l.step e).store.subscribers.Perm (standing (l.step e).made) := by
  cases e with
  | subscribe name manner =>
      show (l.store.subscribers ++ [name]).Perm (standing (l.made ++ [⟨name, false⟩]))
      rw [standing_append]
      exact h.append_right [name]
  | cancel place =>
      cases hplace : l.made[place]? with
      | none => rwa [step_cancel_none hplace]
      | some r =>
          rw [step_cancel hplace]
          show (l.store.subscribers.erase r.name).Perm _
          exact (h.erase r.name).trans (perm_standing_set hplace (hfresh place rfl r hplace))

/-! ## Runs -/

/-- The ledger after one step more; after the last one it stays. -/
theorem ofSteps_take_succ (steps : List Step) (n : Nat) :
    (steps[n]? = none ∧ Ledger.ofSteps (steps.take (n + 1)) = Ledger.ofSteps (steps.take n)) ∨
      ∃ e, steps[n]? = some e ∧
        Ledger.ofSteps (steps.take (n + 1)) = (Ledger.ofSteps (steps.take n)).step e := by
  rw [List.take_add_one, Ledger.ofSteps, List.foldl_append]
  cases hn : steps[n]? with
  | none => exact .inl ⟨rfl, rfl⟩
  | some e => exact .inr ⟨e, rfl, rfl⟩

/-- What should be left is left at any time just if all calls are to the purpose. -/
theorem right_iff_inTurn (steps : List Step) :
    (∀ n, (Ledger.ofSteps (steps.take n)).Right) ↔
      ∀ n place, steps[n]? = some (.cancel place) →
        InTurn (Ledger.ofSteps (steps.take n)).made place := by
  constructor
  · intro hright n place hn
    have hafter := hright (n + 1)
    obtain ⟨hnone, -⟩ | ⟨e, he, hstep⟩ := ofSteps_take_succ steps n
    · cases hn.symm.trans hnone
    · cases hn.symm.trans he
      rw [hstep] at hafter
      exact (right_cancel_iff (hright n) place).mp hafter
  · intro hturn n
    induction n with
    | zero => rfl
    | succ n ih =>
        obtain ⟨-, hstep⟩ | ⟨e, he, hstep⟩ := ofSteps_take_succ steps n
        · rwa [hstep]
        · rw [hstep]
          cases e with
          | subscribe name manner => exact right_subscribe ih name manner
          | cancel place => exact (right_cancel_iff ih place).mpr (hturn n place he)

/-- No subscriber is left with more entries than it should have. -/
theorem subperm_ofSteps (steps : List Step) :
    (Ledger.ofSteps steps).store.subscribers.Subperm (standing (Ledger.ofSteps steps).made) := by
  induction steps using List.reverseRecOn with
  | nil => exact List.Subperm.refl []
  | append_singleton r e ih =>
      rw [Ledger.ofSteps, List.foldl_append]
      exact subperm_step ih e

/-- As long as no function is called twice, each subscriber has as many entries as it should have. -/
theorem perm_of_fresh
    (h : ∀ n place, steps[n]? = some (.cancel place) →
      Fresh (Ledger.ofSteps (steps.take n)).made place) (n : Nat) :
    (Ledger.ofSteps (steps.take n)).store.subscribers.Perm
      (standing (Ledger.ofSteps (steps.take n)).made) := by
  induction n with
  | zero => exact List.Perm.refl []
  | succ n ih =>
      obtain ⟨-, hstep⟩ | ⟨e, he, hstep⟩ := ofSteps_take_succ steps n
      · rwa [hstep]
      · rw [hstep]
        refine perm_step ih fun place heq => h n place ?_
        rw [he, heq]

/-- **What is left of the registrations.** At any time it is what should be left, just if every call
so far was to the purpose. It is never more than that, and if no function was called twice it is as
much. -/
theorem entries_left (steps : List Step) :
    ((∀ n, (Ledger.ofSteps (steps.take n)).Right) ↔
        ∀ n place, steps[n]? = some (.cancel place) →
          InTurn (Ledger.ofSteps (steps.take n)).made place) ∧
      (Ledger.ofSteps steps).store.subscribers.Subperm (standing (Ledger.ofSteps steps).made) ∧
      ((∀ n place, steps[n]? = some (.cancel place) →
          Fresh (Ledger.ofSteps (steps.take n)).made place) →
        (Ledger.ofSteps steps).store.subscribers.Perm (standing (Ledger.ofSteps steps).made)) := by
  refine ⟨right_iff_inTurn steps, subperm_ofSteps steps, fun hfresh => ?_⟩
  have hall := perm_of_fresh hfresh steps.length
  rwa [List.take_length] at hall

/-- Two registrations of one subscriber and one of another between them; the later of the two is
cancelled. -/
def crossedSteps : List Step :=
  [.subscribe "panel" .quiet, .subscribe "badge" .quiet, .subscribe "panel" .quiet, .cancel 2]

/-- Nobody has too many entries or too few, but they do not stand as they should. -/
theorem entries_left_crossedSteps :
    (Ledger.ofSteps crossedSteps).store.subscribers = ["badge", "panel"] ∧
      standing (Ledger.ofSteps crossedSteps).made = ["panel", "badge"] ∧
      ¬ (∀ n place, crossedSteps[n]? = some (.cancel place) →
          InTurn (Ledger.ofSteps (crossedSteps.take n)).made place) ∧
      (Ledger.ofSteps crossedSteps).store.subscribers.Perm
        (standing (Ledger.ofSteps crossedSteps).made) := by
  have hwrong : ¬ (Ledger.ofSteps (crossedSteps.take 4)).Right := by
    unfold Ledger.Right
    decide
  have hfresh : ∀ n place, crossedSteps[n]? = some (.cancel place) →
      Fresh (Ledger.ofSteps (crossedSteps.take n)).made place := by
    intro n place hn
    match n, hn with
    | 3, hn =>
        cases hn
        unfold Fresh
        decide
  exact ⟨by decide, by decide, fun hturn => hwrong ((entries_left crossedSteps).1.mpr hturn 4),
    (entries_left crossedSteps).2.2 hfresh⟩

/-- A function that is called again takes off the other entry of its subscriber. -/
theorem not_right_again : ¬ ∀ steps : List Step, (Ledger.ofSteps steps).Right := by
  intro h
  have hleft : (Ledger.ofSteps [.subscribe "panel" .quiet, .subscribe "panel" .quiet, .cancel 1,
      .cancel 1]).store.subscribers = ["panel"] := h _
  exact absurd hleft (by decide)

end StickerPages.Catalog
