/-!
# Pairs that remember their order

A finite map written as a list of pairs. Writing at a key that occurs keeps the key's place and
replaces the value; a new key comes last. So the keys stand in the order in which they were first
written, which is the order every output of this library shows.

`lookup_put_self`, `lookup_put_other` and `keys_put` say what a write does to look-ups and to keys.
-/

namespace StickerPages

namespace Pairs

variable {κ ν : Type} [BEq κ]

/-- Writes a value at a key. -/
def put : List (κ × ν) → κ → ν → List (κ × ν)
  | [], k, v => [(k, v)]
  | (l, w) :: r, k, v => if l == k then (l, v) :: r else (l, w) :: put r k v

/-- Writes several values, one after the other. -/
def putAll (es : List (κ × ν)) (ws : List (κ × ν)) : List (κ × ν) :=
  ws.foldl (fun es w => put es w.1 w.2) es

/-- Removes a key. -/
def erase (es : List (κ × ν)) (k : κ) : List (κ × ν) :=
  es.filter fun e => !(e.1 == k)

/-- The key occurs. -/
def has (es : List (κ × ν)) (k : κ) : Bool :=
  es.any fun e => e.1 == k

end Pairs

namespace Pairs

variable {κ ν : Type} [BEq κ] [LawfulBEq κ]

theorem lookup_put_self (es : List (κ × ν)) (k : κ) (v : ν) : (put es k v).lookup k = some v := by
  induction es with
  | nil => simp [put]
  | cons e r ih =>
    obtain ⟨l, w⟩ := e
    by_cases h : l == k
    · simp [put, eq_of_beq h]
    · have h' : (k == l) = false := by
        rw [BEq.comm]; simpa using h
      simp [put, h, List.lookup_cons, h', ih]

theorem lookup_put_other (es : List (κ × ν)) {k j : κ} (v : ν) (hj : j ≠ k) :
    (put es k v).lookup j = es.lookup j := by
  have hj' : (j == k) = false := by simpa using hj
  induction es with
  | nil => simp [put, List.lookup_cons, List.lookup_nil, hj']
  | cons e r ih =>
    obtain ⟨l, w⟩ := e
    by_cases h : l == k
    · have hl := eq_of_beq h
      subst hl
      simp [put, List.lookup_cons, hj']
    · simp [put, h, List.lookup_cons, ih]

omit [LawfulBEq κ] in
/-- A write adds its key at the end unless the key is there. -/
theorem keys_put (es : List (κ × ν)) (k : κ) (v : ν) :
    (put es k v).map (·.1) =
      if has es k then es.map (·.1) else es.map (·.1) ++ [k] := by
  induction es with
  | nil => simp [put, has]
  | cons e r ih =>
    obtain ⟨l, w⟩ := e
    by_cases h : l == k
    · simp [put, has, h]
    · have ih' := ih
      unfold has at ih' ⊢
      by_cases hr : r.any fun e => e.1 == k
      · simp only [hr, if_true] at ih'
        simp [put, h, ih', hr]
      · simp only [hr] at ih'
        simp [put, h, ih', hr]

end Pairs

end StickerPages
