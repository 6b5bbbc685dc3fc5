import Mathlib.Data.List.Induction
import StickerPages.Catalog.Store

/-!
# Telling the subscribers

When a catalog is put in use, those who are subscribed at that moment are called one after the other.
They may do what they like to the list of subscribers meanwhile, or fail. A round goes by the list as
it was when the round began, so nothing of that decides who is called. What it decides is the list
that the round leaves (`Round`, kept by each call in `Round.call`).

This holds after any run of subscriptions, cancellations and rounds, and of the list itself it can be
said at any time that it is what was done to it, in the order in which it was done
(`subscribers_after`). The two together are `after_told`.
-/

namespace StickerPages.Catalog

/-- What a deed makes of the list of subscribers. -/
def Deed.change (names : List String) : Deed → List String
  | .subscribe name _ => names ++ [name]
  | .unsubscribe name => names.erase name

namespace Store

variable {conduct : Conduct} {s start : Store} {names : List String} {name : String}
  {r : Store × List Visit}

/-! ## Deeds -/

theorem subscribers_undergo (s : Store) (d : Deed) :
    (s.undergo d).subscribers = d.change s.subscribers := by
  cases d <;> rfl

theorem flags_undergo (s : Store) (d : Deed) :
    (s.undergo d).groups = s.groups ∧ (s.undergo d).loading = s.loading ∧
      (s.undergo d).loaded = s.loaded := by
  cases d <;> exact ⟨rfl, rfl, rfl⟩

/-- The list of subscribers is what the deeds made of it. -/
theorem subscribers_foldl_undergo (deeds : List Deed) (s : Store) :
    (deeds.foldl undergo s).subscribers = deeds.foldl Deed.change s.subscribers := by
  induction deeds generalizing s with
  | nil => rfl
  | cons d r ih => rw [List.foldl_cons, ih, subscribers_undergo, List.foldl_cons]

/-- Deeds touch nothing but the subscribers. -/
theorem flags_foldl_undergo (deeds : List Deed) (s : Store) :
    (deeds.foldl undergo s).groups = s.groups ∧ (deeds.foldl undergo s).loading = s.loading ∧
      (deeds.foldl undergo s).loaded = s.loaded := by
  induction deeds generalizing s with
  | nil => exact ⟨rfl, rfl, rfl⟩
  | cons d r ih =>
      obtain ⟨hgroups, hloading, hloaded⟩ := flags_undergo s d
      obtain ⟨hgroups', hloading', hloaded'⟩ := ih (s.undergo d)
      exact ⟨hgroups'.trans hgroups, hloading'.trans hloading, hloaded'.trans hloaded⟩

/-! ## Rounds -/

/-- What those who were called did, all in all. -/
def deedsOf (visits : List Visit) : List Deed := visits.flatMap (·.reaction.deeds)

/-- What a subscriber of this name sees of the store. -/
def callOf (s : Store) (name : String) : Call := ⟨name, s.groups, s.loading, s.loaded⟩

/-- A round that began with this store has come to the end of these names. -/
structure Round (conduct : Conduct) (start : Store) (names : List String)
    (r : Store × List Visit) : Prop where
  /-- Each of the names was called, in this order, and saw the store as it was at the beginning. -/
  calls : r.2.map (·.call) = names.map start.callOf
  /-- Each did what it does in a store that is left by those before it. -/
  reactions : ∀ front v back, r.2 = front ++ v :: back →
    v.reaction = conduct ((deedsOf front).foldl undergo start) front v.call.name
  /-- And the store is left as all of them left it. -/
  store : r.1 = (deedsOf r.2).foldl undergo start

/-- **The next call,** whatever those before it have done. -/
theorem Round.call (h : Round conduct start names r) (name : String) :
    Round conduct start (names ++ [name]) (callOne conduct r name) := by
  obtain ⟨hgroups, hloading, hloaded⟩ := flags_foldl_undergo (deedsOf r.2) start
  have hseen : (⟨name, r.1.groups, r.1.loading, r.1.loaded⟩ : Call) = start.callOf name := by
    rw [h.store, hgroups, hloading, hloaded, callOf]
  refine ⟨?_, fun front v back hsplit => ?_, ?_⟩
  · rw [callOne, List.map_append, List.map_append, h.calls, List.map_singleton, hseen,
      List.map_singleton]
  · -- the visit is the one that was added, or it is one of those before
    rw [callOne] at hsplit
    dsimp only at hsplit
    rcases List.eq_nil_or_concat back with rfl | ⟨back, last, rfl⟩
    · obtain ⟨rfl, hv⟩ := List.append_inj' hsplit rfl
      obtain rfl := List.singleton_inj.mp hv
      rw [← h.store]
    · rw [List.concat_eq_append, ← List.cons_append, ← List.append_assoc] at hsplit
      exact h.reactions front v back (List.append_inj' hsplit rfl).1
  · rw [callOne, deedsOf, List.flatMap_append, List.foldl_append]
    dsimp only
    rw [List.flatMap_singleton, ← deedsOf, ← h.store]

/-- A round comes to the end of its names. -/
theorem round_foldl (conduct : Conduct) (start : Store) (names : List String) :
    Round conduct start names (names.foldl (callOne conduct) (start, [])) := by
  induction names using List.reverseRecOn with
  | nil => exact ⟨rfl, fun front v back h => by simp at h, rfl⟩
  | append_singleton r name ih =>
      rw [List.foldl_append]
      exact ih.call name

/-- **A round goes to those who were subscribed when it began.** -/
theorem round_replaceUnder (conduct : Conduct) (s : Store) (groups : List Group) :
    Round conduct { s with groups } s.subscribers (s.replaceUnder conduct groups) :=
  round_foldl conduct { s with groups } s.subscribers

theorem Round.groups (h : Round conduct start names r) : r.1.groups = start.groups := by
  rw [h.store]
  exact (flags_foldl_undergo _ _).1

theorem Round.subscribers (h : Round conduct start names r) :
    r.1.subscribers = (deedsOf r.2).foldl Deed.change start.subscribers := by
  rw [h.store]
  exact subscribers_foldl_undergo _ _

/-- Each subscriber is called once and sees the new groups. -/
theorem replace_calls (s : Store) (gs : List Group) :
    (s.replace gs).2 = s.subscribers.map fun name => ⟨name, gs, s.loading, s.loaded⟩ :=
  (round_replaceUnder byManner s gs).calls

theorem replace_groups (s : Store) (gs : List Group) : (s.replace gs).1.groups = gs :=
  (round_replaceUnder byManner s gs).groups

/-! ## Runs -/

/-- What happens to a store. The subscribers may act in another way in each round. -/
inductive Event where
  | deed (d : Deed)
  | replace (conduct : Conduct) (groups : List Group)

/-- A store after one more event. -/
def happen (s : Store) : Event → Store
  | .deed d => s.undergo d
  | .replace conduct groups => (s.replaceUnder conduct groups).1

/-- A store after a run of events. -/
def after (s : Store) (events : List Event) : Store := events.foldl happen s

/-- What an event does to the list of subscribers: a deed, or all the deeds of those who are called. -/
def deedsIn (s : Store) : Event → List Deed
  | .deed d => [d]
  | .replace conduct groups => deedsOf (s.replaceUnder conduct groups).2

/-- What a run does to the list of subscribers. -/
def deedsAmong (s : Store) : List Event → List Deed
  | [] => []
  | e :: r => s.deedsIn e ++ (s.happen e).deedsAmong r

theorem subscribers_happen (s : Store) (e : Event) :
    (s.happen e).subscribers = (s.deedsIn e).foldl Deed.change s.subscribers := by
  cases e with
  | deed d => exact subscribers_undergo s d
  | replace conduct groups => exact (round_replaceUnder conduct s groups).subscribers

/-- **The list of subscribers is what was done to it.** -/
theorem subscribers_after (s : Store) (events : List Event) :
    (s.after events).subscribers = (s.deedsAmong events).foldl Deed.change s.subscribers := by
  induction events generalizing s with
  | nil => rfl
  | cons e r ih =>
      rw [deedsAmong, List.foldl_append, ← subscribers_happen]
      exact ih (s.happen e)

/-- **Whatever has happened to a store, and whatever its subscribers do,** a new catalog is told to
those who are subscribed, once for each of their entries and in the order of the entries. After that
it is in use, and the list is what the subscribers made of it. -/
theorem after_told (s : Store) (events : List Event) (conduct : Conduct) (groups : List Group) :
    let began := s.after events
    let ended := s.after (events ++ [.replace conduct groups])
    let visits := (began.replaceUnder conduct groups).2
    began.subscribers = (s.deedsAmong events).foldl Deed.change s.subscribers ∧
      Round conduct { began with groups } began.subscribers (ended, visits) ∧
      ended.groups = groups ∧
      ended.subscribers = (deedsOf visits).foldl Deed.change began.subscribers := by
  intro began ended visits
  have hended : ended = (began.replaceUnder conduct groups).1 := List.foldl_append
  have hround : Round conduct { began with groups } began.subscribers (ended, visits) := by
    rw [hended]
    exact round_replaceUnder conduct began groups
  exact ⟨subscribers_after s events, hround, hround.groups, hround.subscribers⟩

-- one that is taken off by another in front of it is called all the same
example :
    let s := (({} : Store).subscribe "panel" (.drops "badge")).subscribe "badge" .fails
    (s.replace []).2.map (·.name) = ["panel", "badge"] ∧ (s.replace []).1.subscribers = ["panel"] := by
  decide

end Store

end StickerPages.Catalog
