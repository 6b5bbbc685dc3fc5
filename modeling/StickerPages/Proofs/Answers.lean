import Mathlib.Data.List.Forall2

/-!
# Answers that are right or refused

A reader of data from outside answers with what it read or with the first fault it met. What it
ought to answer is best said by two relations, the good answers and the faults, neither of which
mentions the order in which the reader looks at things. `Answers` says that a reader follows two
such relations: it gives an answer just if the answer is good, and a fault just if the fault is
there.

To show it takes three steps (`Answers.intro`): good answers are given, faults are given, and there
is always one of the two. That a reader cannot give both saves proving that the relations exclude
each other.

Reading a list item by item is the only loop. There the good answers are lists of good answers, item
for item, and the fault is that of the first item which has one (`Answers.mapM`).
-/

namespace StickerPages

variable {α β ε : Type}

/-! ## Steps -/

@[simp] theorem ok_bind (a : α) (f : α → Except ε β) : (Except.ok a >>= f) = f a := rfl

@[simp] theorem error_bind (e : ε) (f : α → Except ε β) : (Except.error e >>= f) = .error e := rfl

theorem bind_eq_ok {r : Except ε α} {f : α → Except ε β} {b : β} :
    r.bind f = .ok b ↔ ∃ a, r = .ok a ∧ f a = .ok b := by
  cases r with
  | ok a => exact ⟨fun h => ⟨a, rfl, h⟩, fun ⟨_, ha, h⟩ => by cases ha; exact h⟩
  | error e => exact ⟨nofun, fun ⟨_, ha, _⟩ => nomatch ha⟩

/-! ## Answers -/

/-- Given are exactly the good answers, and exactly the faults that are there. -/
structure Answers (r : Except ε β) (good : β → Prop) (fault : ε → Prop) : Prop where
  ok : ∀ b, r = .ok b ↔ good b
  error : ∀ e, r = .error e ↔ fault e

/-- The first item that has a fault has this one. -/
def FirstFaulty (good : α → β → Prop) (fault : α → ε → Prop) (xs : List α) (e : ε) : Prop :=
  ∃ front x back, xs = front ++ x :: back ∧ (∀ y ∈ front, ∃ b, good y b) ∧ fault x e

/-- Every item has a good answer just if there is a list of them. -/
theorem exists_forall₂ {R : α → β → Prop} {xs : List α} :
    (∃ ys, List.Forall₂ R xs ys) ↔ ∀ x ∈ xs, ∃ y, R x y := by
  induction xs with
  | nil => simp
  | cons x r ih =>
      rw [List.forall_mem_cons, ← ih]
      constructor
      · rintro ⟨ys, h⟩
        obtain ⟨y, ys', hy, hys, -⟩ := List.forall₂_cons_left_iff.mp h
        exact ⟨⟨y, hy⟩, ys', hys⟩
      · rintro ⟨⟨y, hy⟩, ys, hys⟩
        exact ⟨y :: ys, .cons hy hys⟩

namespace Answers

variable {r : Except ε β} {good : β → Prop} {fault : ε → Prop}

theorem intro (hgood : ∀ b, good b → r = .ok b) (hfault : ∀ e, fault e → r = .error e)
    (hcase : (∃ b, good b) ∨ ∃ e, fault e) : Answers r good fault := by
  rcases hcase with ⟨b, hb⟩ | ⟨e, he⟩
  · have hr := hgood b hb
    refine ⟨fun b' => ⟨fun h => ?_, hgood b'⟩, fun e => ⟨fun h => ?_, hfault e⟩⟩
    · rw [hr] at h
      cases h
      exact hb
    · rw [hr] at h
      cases h
  · have hr := hfault e he
    refine ⟨fun b => ⟨fun h => ?_, hgood b⟩, fun e' => ⟨fun h => ?_, hfault e'⟩⟩
    · rw [hr] at h
      cases h
    · rw [hr] at h
      cases h
      exact he

/-- There is always an answer or a fault. -/
theorem cases (h : Answers r good fault) : (∃ b, good b) ∨ ∃ e, fault e := by
  cases hr : r with
  | ok b => exact .inl ⟨b, (h.ok b).mp hr⟩
  | error e => exact .inr ⟨e, (h.error e).mp hr⟩

/-- The relations may be said in other words. -/
theorem congr (h : Answers r good fault) {good' : β → Prop} {fault' : ε → Prop}
    (hgood : ∀ b, good b ↔ good' b) (hfault : ∀ e, fault e ↔ fault' e) :
    Answers r good' fault' :=
  ⟨fun b => (h.ok b).trans (hgood b), fun e => (h.error e).trans (hfault e)⟩

/-- A list is read item by item, up to the first fault. -/
theorem mapM {f : α → Except ε β} {good : α → β → Prop} {fault : α → ε → Prop}
    (h : ∀ x, Answers (f x) (good x) (fault x)) (xs : List α) :
    Answers (xs.mapM f) (List.Forall₂ good xs) (FirstFaulty good fault xs) := by
  induction xs with
  | nil =>
      refine intro (fun ys hys => ?_) (fun e he => ?_) (.inl ⟨[], .nil⟩)
      · cases hys
        rfl
      · obtain ⟨front, x, back, hxs, -⟩ := he
        simp at hxs
  | cons x r ih =>
      refine intro (fun ys hys => ?_) (fun e he => ?_) ?_
      · -- every item has a good answer
        obtain ⟨y, ys', hy, hys', rfl⟩ := List.forall₂_cons_left_iff.mp hys
        rw [List.mapM_cons, ((h x).ok y).mpr hy, (ih.ok ys').mpr hys']
        rfl
      · -- the faulty item is the first, or it comes later and the first is good
        obtain ⟨front, z, back, hxs, hfront, hz⟩ := he
        cases front with
        | nil =>
            cases hxs
            rw [List.mapM_cons, ((h x).error e).mpr hz]
            rfl
        | cons x' front =>
            cases hxs
            obtain ⟨y, hy⟩ := hfront x List.mem_cons_self
            have hr : FirstFaulty good fault (front ++ z :: back) e :=
              ⟨front, z, back, rfl, fun y hy => hfront y (List.mem_cons_of_mem _ hy), hz⟩
            rw [List.mapM_cons, ((h x).ok y).mpr hy, (ih.error e).mpr hr]
            rfl
      · rcases (h x).cases with ⟨y, hy⟩ | ⟨e, he⟩
        · rcases ih.cases with ⟨ys, hys⟩ | ⟨e, front, z, back, rfl, hfront, hz⟩
          · exact .inl ⟨y :: ys, .cons hy hys⟩
          · refine .inr ⟨e, x :: front, z, back, rfl, ?_, hz⟩
            exact List.forall_mem_cons.mpr ⟨⟨y, hy⟩, hfront⟩
        · exact .inr ⟨e, [], x, r, rfl, by simp, he⟩

end Answers

end StickerPages
