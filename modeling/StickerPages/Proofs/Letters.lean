import StickerPages.Text.Blank
import StickerPages.Text.Case

/-!
# Small letters stay small

Writing a text in small letters a second time changes nothing (`small_small`), and it changes nothing
that names are told apart by: a character in front of the letters is none that was another before
(`mem_of_mem_small`), and a text that neither begins nor ends with a blank still does not
(`Trimmed.small`).

All of it comes from what the table of runs says about single characters. A partner of a run is not
itself covered by a run; that is checked run against run, by where the partners begin and end, and
by the parity where two runs of every other character lie within each other (`Shift.isSettled`).
-/

namespace StickerPages.Text

/-! ## Runs -/

namespace Shift

/-- The character has its partner by this run. -/
def covers (s : Shift) (n : Nat) : Bool :=
  s.first ≤ n && n ≤ s.last && (n - s.first) % s.step == 0

/-- Where the run puts a character. -/
def partner (s : Shift) (n : Nat) : Nat := (n + s.offset).toNat

/-- The run `t` may cover a character from `a` to `b`, where every `step`-th one counts. -/
def meets (a b step : Nat) (t : Shift) : Bool :=
  Nat.ble t.first b && Nat.ble a t.last &&
    !(Nat.beq t.step 2 && (Nat.beq step 2 || Nat.beq a b) && Nat.beq ((a + t.first) % 2) 1)

/-- What no partner is: `İ`, a blank beyond Latin, or half of a surrogate pair. -/
def avoided : List (Nat × Nat) :=
  [(0x130, 0x130), (0x1680, 0x1680), (0x2000, 0x206f), (0x3000, 0x3000), (0xd800, 0xdfff)]

/-- From `a` to `b` there are letters only, and among those that count none has a partner. -/
def areSettled (a b step : Nat) : Bool :=
  (Nat.ble 0xdf a || Nat.ble 0x61 a && Nat.ble b 0x7a) && Nat.ble b 0x10ffff &&
    !avoided.any (fun r => Nat.ble r.1 b && Nat.ble a r.2) && !smallShifts.any (meets a b step)

/-- No partner of the run has a partner itself. -/
def isSettled (s : Shift) : Bool := areSettled (s.partner s.first) (s.partner s.last) s.step

theorem isSettled_all : smallShifts.all isSettled = true := by decide +kernel

/-- What the check says about one partner. -/
structure Settled (m : Nat) : Prop where
  letter : 0xdf ≤ m ∨ 0x61 ≤ m ∧ m ≤ 0x7a
  bound : m ≤ 0x10ffff
  avoids : ∀ r ∈ avoided, m < r.1 ∨ r.2 < m
  uncovered : ∀ t ∈ smallShifts, t.covers m = false

theorem settled_partner {s : Shift} (hs : s ∈ smallShifts) {n : Nat} (hn : s.covers n = true) :
    Settled (s.partner n) := by
  have hcheck := List.all_eq_true.mp isSettled_all s hs
  simp only [covers, Bool.and_eq_true, decide_eq_true_eq, beq_iff_eq] at hn
  simp only [isSettled, areSettled, Bool.and_eq_true, Bool.or_eq_true, Nat.ble_eq,
    Bool.not_eq_true', List.any_eq_false] at hcheck
  obtain ⟨⟨⟨hletter, hbound⟩, havoids⟩, hmeets⟩ := hcheck
  -- the partner lies between those of the first and of the last character
  have hlow : s.partner s.first ≤ s.partner n := by unfold partner; omega
  have hhigh : s.partner n ≤ s.partner s.last := by unfold partner; omega
  refine ⟨by omega, by omega, fun r hr => ?_, fun t ht => ?_⟩
  · have := havoids r hr
    omega
  · have hmiss := hmeets t ht
    refine Bool.eq_false_iff.mpr fun hcover => ?_
    simp only [covers, Bool.and_eq_true, decide_eq_true_eq, beq_iff_eq] at hcover
    -- so the two runs meet, and it is the parity that keeps them apart
    have hparity : t.step = 2 ∧ (s.step = 2 ∨ s.partner s.first = s.partner s.last) ∧
        (s.partner s.first + t.first) % 2 = 1 := by
      by_cases h : t.step = 2 ∧ (s.step = 2 ∨ s.partner s.first = s.partner s.last) ∧
          (s.partner s.first + t.first) % 2 = 1
      · exact h
      · refine absurd ?_ hmiss
        have hout : (Nat.beq t.step 2 && (Nat.beq s.step 2 ||
            Nat.beq (s.partner s.first) (s.partner s.last)) &&
              Nat.beq ((s.partner s.first + t.first) % 2) 1) = false := by
          rw [Bool.eq_false_iff]
          simpa [and_assoc] using h
        simp only [meets, hout, Bool.not_false, Bool.and_true, Bool.and_eq_true, Nat.ble_eq]
        omega
    obtain ⟨htwo, hpair, hodd⟩ := hparity
    rw [htwo] at hcover
    rcases hpair with hpair | hpair
    · rw [hpair] at hn
      unfold partner at *
      omega
    · omega

end Shift

/-! ## Characters -/

/-- By which run a character has its partner, if it has one. -/
theorem shiftOf_eq_some {n : Nat} {o : Int} (h : shiftOf smallShifts n = some o) :
    ∃ s ∈ smallShifts, s.covers n = true ∧ s.offset = o := by
  obtain ⟨s, hs, ho⟩ := Option.map_eq_some_iff.mp h
  have hcovers := List.find?_some hs
  exact ⟨s, List.mem_of_find?_eq_some hs, hcovers, ho⟩

theorem shiftOf_eq_none {n : Nat} (h : ∀ s ∈ smallShifts, s.covers n = false) :
    shiftOf smallShifts n = none :=
  Option.map_eq_none_iff.mpr (List.find?_eq_none.mpr fun s hs => by
    rw [Bool.not_eq_true]
    exact h s hs)

theorem lookup_smallExpansions {n : Nat} {ns : List Nat}
    (h : smallExpansions.lookup n = some ns) : ns = [0x69, 0x307] := by
  simp only [smallExpansions, List.lookup_cons, List.lookup_nil] at h
  split at h
  · exact (Option.some.inj h).symm
  · cases h

/-- Below U+0080 a small form is the character's own, or that of a letter. -/
theorem toLower_cases : ∀ n < 0x80, (Char.ofNat n).toLower = Char.ofNat n ∨
    0x61 ≤ (Char.ofNat n).toLower.toNat ∧ (Char.ofNat n).toLower.toNat ≤ 0x7a := by
  decide +kernel

theorem toLower_letter : ∀ n < 0x80, 0x61 ≤ n → (Char.ofNat n).toLower = Char.ofNat n := by
  decide +kernel

namespace Shift.Settled

theorem uncovered_letter :
    ∀ n < 0x7b, 0x61 ≤ n → ∀ s ∈ smallShifts, s.covers n = false := by decide +kernel

theorem of_letter {n : Nat} (hlow : 0x61 ≤ n) (hhigh : n ≤ 0x7a) : Settled n where
  letter := .inr ⟨hlow, hhigh⟩
  bound := by omega
  avoids r hr := .inl (Nat.lt_of_le_of_lt hhigh ((by decide : ∀ r ∈ avoided, 0x7a < r.1) r hr))
  uncovered := uncovered_letter n (by omega) hlow

/-- The dot that is left of `İ`, and the two small forms of a sigma. -/
theorem of_exception : ∀ x ∈ [Char.ofNat 0x307, 'ς', 'σ'], Settled x.toNat := by
  intro x hx
  simp only [List.mem_cons, List.not_mem_nil, or_false] at hx
  rcases hx with rfl | rfl | rfl <;>
    exact ⟨by decide, by decide, by decide, by decide +kernel⟩

theorem toNat_ofNat {m : Nat} (h : Settled m) : Settled (Char.ofNat m).toNat := by
  have hsurrogates := h.avoids (0xd800, 0xdfff) (by decide)
  have hvalid : m.isValidChar := by
    have := h.bound
    unfold Nat.isValidChar
    omega
  have hm : (Char.ofNat m).toNat = m := by
    unfold Char.ofNat
    rw [dif_pos hvalid]
    rfl
  rwa [hm]

variable {x : Char}

theorem smallChar (h : Settled x.toNat) : smallChar x = [x] := by
  unfold Text.smallChar
  split
  · next hascii =>
    have hlower := toLower_letter x.toNat hascii (by have := h.letter; omega)
    rw [Char.ofNat_toNat] at hlower
    rw [hlower]
  · have hexpand : smallExpansions.lookup x.toNat = none := by
      have hne := h.avoids (0x130, 0x130) (by decide)
      have hbeq : (x.toNat == 0x130) = false := by simp; omega
      simp [smallExpansions, List.lookup_cons, hbeq]
    rw [mapCase, hexpand, shiftOf_eq_none h.uncovered]

theorem not_blank (h : Settled x.toNat) : isBlank x = false := by
  have hletter := h.letter
  have hogham := h.avoids (0x1680, 0x1680) (by decide)
  have hpunctuation := h.avoids (0x2000, 0x206f) (by decide)
  have hwide := h.avoids (0x3000, 0x3000) (by decide)
  simp only [isBlank, Bool.or_eq_false_iff, Bool.and_eq_false_iff, decide_eq_false_iff_not,
    beq_eq_false_iff_ne]
  omega

end Shift.Settled

/-- A small form is the character itself, or a letter that is small already. -/
theorem smallChar_cases {c x : Char} (h : x ∈ smallChar c) :
    smallChar c = [c] ∧ x = c ∨ Shift.Settled x.toNat := by
  by_cases hascii : c.toNat < 0x80
  · have hsmall : smallChar c = [c.toLower] := if_pos hascii
    rw [hsmall, List.mem_singleton] at h
    have hcases := toLower_cases c.toNat hascii
    rw [Char.ofNat_toNat, ← h] at hcases
    rcases hcases with hsame | ⟨hlow, hhigh⟩
    · exact .inl ⟨by rw [hsmall, ← h, hsame], hsame⟩
    · exact .inr (.of_letter hlow hhigh)
  · have hsmall : smallChar c = mapCase smallExpansions smallShifts c := if_neg hascii
    rw [hsmall] at h ⊢
    unfold mapCase at h ⊢
    cases hexpand : smallExpansions.lookup c.toNat with
    | some ns =>
        rw [hexpand, lookup_smallExpansions hexpand] at h
        refine .inr ?_
        rcases List.mem_cons.mp h with rfl | h
        · exact .of_letter (by decide) (by decide)
        · exact .of_exception x (List.mem_cons.mpr (.inl (List.mem_singleton.mp h)))
    | none =>
        cases hshift : shiftOf smallShifts c.toNat with
        | none =>
            rw [hexpand, hshift] at h
            exact .inl ⟨rfl, List.mem_singleton.mp h⟩
        | some o =>
            obtain ⟨s, hs, hcovers, rfl⟩ := shiftOf_eq_some hshift
            rw [hexpand, hshift, List.mem_singleton] at h
            rw [h]
            exact .inr (Shift.settled_partner hs hcovers).toNat_ofNat

/-- A capital sigma is not small. -/
theorem smallChar_sigma : smallChar 'Σ' = ['σ'] := by decide +kernel

theorem smallChar_ne_nil (c : Char) : smallChar c ≠ [] := by
  intro h
  by_cases hascii : c.toNat < 0x80
  · rw [show smallChar c = [c.toLower] from if_pos hascii] at h
    cases h
  · rw [show smallChar c = mapCase smallExpansions smallShifts c from if_neg hascii, mapCase] at h
    cases hexpand : smallExpansions.lookup c.toNat with
    | some ns => simp [hexpand, lookup_smallExpansions hexpand] at h
    | none =>
        rw [hexpand] at h
        cases hshift : shiftOf smallShifts c.toNat <;> simp [hshift] at h

/-! ## Texts -/

/-- What is written for a character: itself, if it is small, or else a letter that is. -/
def WrittenFor (c x : Char) : Prop := smallChar c = [c] ∧ x = c ∨ Shift.Settled x.toNat

theorem WrittenFor.smallChar {c x : Char} (h : WrittenFor c x) : smallChar x = [x] := by
  rcases h with ⟨hc, rfl⟩ | h
  · exact hc
  · exact h.smallChar

theorem WrittenFor.not_blank {c x : Char} (h : WrittenFor c x) (hc : isBlank c = false) :
    isBlank x = false := by
  rcases h with ⟨-, rfl⟩ | h
  · exact hc
  · exact h.not_blank

/-- One character of a text, with what is written for it. -/
theorem smallFrom_cons (before : List Char) (c : Char) (r : List Char) :
    ∃ x piece, smallFrom before (c :: r) = x :: piece ++ smallFrom (c :: before) r ∧
      ∀ y ∈ x :: piece, WrittenFor c y := by
  rw [smallFrom]
  split
  · next hc =>
    refine ⟨_, [], rfl, ?_⟩
    intro y hy
    refine .inr (.of_exception y ?_)
    rw [List.mem_singleton.mp hy]
    split <;> simp
  · cases hpiece : smallChar c with
    | nil => exact absurd hpiece (smallChar_ne_nil c)
    | cons x piece => exact ⟨x, piece, rfl, fun y hy => smallChar_cases (hpiece ▸ hy)⟩

theorem mem_smallFrom {before cs : List Char} {x : Char} (h : x ∈ smallFrom before cs) :
    ∃ c ∈ cs, WrittenFor c x := by
  induction cs generalizing before with
  | nil => cases h
  | cons c r ih =>
      obtain ⟨y, piece, heq, hpiece⟩ := smallFrom_cons before c r
      rw [heq] at h
      rcases List.mem_append.mp h with h | h
      · exact ⟨c, List.mem_cons_self, hpiece x h⟩
      · obtain ⟨d, hd, hx⟩ := ih h
        exact ⟨d, List.mem_cons_of_mem c hd, hx⟩

/-- A text of small characters is its own small form. -/
theorem smallFrom_of_small {cs : List Char} (h : ∀ c ∈ cs, smallChar c = [c]) :
    ∀ before, smallFrom before cs = cs := by
  induction cs with
  | nil => exact fun _ => rfl
  | cons c r ih =>
      intro before
      have hc := h c List.mem_cons_self
      have hsigma : c ≠ 'Σ' := by
        rintro rfl
        rw [smallChar_sigma] at hc
        exact absurd hc (by decide)
      rw [smallFrom, if_neg hsigma, hc, ih fun d hd => h d (List.mem_cons_of_mem c hd)]
      rfl

/-- **Small letters are written once and for all.** -/
theorem small_small (cs : List Char) : small (small cs) = small cs :=
  smallFrom_of_small (fun x hx => by
    obtain ⟨c, -, hx⟩ := mem_smallFrom hx
    exact hx.smallChar) []

/-- What stands in front of the letters is not changed by them. -/
theorem mem_of_mem_small {cs : List Char} {x : Char} (h : x ∈ small cs) (hx : x.toNat < 0x61) :
    x ∈ cs := by
  obtain ⟨c, hc, hwritten⟩ := mem_smallFrom h
  rcases hwritten with ⟨-, rfl⟩ | hsettled
  · exact hc
  · have := hsettled.letter
    omega

/-- In front of the letters, what is small already stands as often as it did. -/
theorem count_small {x : Char} (hx : x.toNat < 0x61) (hsmall : smallChar x = [x])
    (cs : List Char) : (small cs).count x = cs.count x := by
  have hfrom (cs : List Char) : ∀ before, (smallFrom before cs).count x = cs.count x := by
    induction cs with
    | nil => exact fun _ => rfl
    | cons c r ih =>
        intro before
        by_cases hc : c = x
        · have hsigma : c ≠ 'Σ' := by
            rintro rfl
            rw [← hc, smallChar_sigma] at hsmall
            exact absurd hsmall (by decide)
          rw [smallFrom, if_neg hsigma, hc, hsmall, List.singleton_append, List.count_cons,
            List.count_cons, ih]
        · obtain ⟨y, piece, heq, hpiece⟩ := smallFrom_cons before c r
          have hnone : x ∉ y :: piece := by
            intro hmem
            rcases hpiece x hmem with ⟨-, rfl⟩ | hsettled
            · exact hc rfl
            · have := hsettled.letter
              omega
          rw [heq, List.count_append, List.count_eq_zero.mpr hnone, Nat.zero_add, ih,
            List.count_cons_of_ne hc]
  exact hfrom cs []

theorem small_ne_nil {cs : List Char} (h : cs ≠ []) : small cs ≠ [] := by
  cases cs with
  | nil => exact absurd rfl h
  | cons c r =>
      obtain ⟨x, piece, heq, -⟩ := smallFrom_cons [] c r
      rw [small, heq]
      exact List.cons_ne_nil _ _

theorem getLast?_smallFrom {cs : List Char} (h : ∀ c ∈ cs.getLast?, isBlank c = false) :
    ∀ before, ∀ x ∈ (smallFrom before cs).getLast?, isBlank x = false := by
  induction cs with
  | nil => exact fun _ x hx => nomatch hx
  | cons c r ih =>
      intro before x hx
      obtain ⟨y, piece, heq, hpiece⟩ := smallFrom_cons before c r
      rw [heq, List.getLast?_append] at hx
      cases r with
      | nil =>
          have hx : (y :: piece).getLast? = some x := hx
          exact (hpiece x (List.mem_of_getLast? hx)).not_blank (h c rfl)
      | cons d r =>
          obtain ⟨z, piece', heq', -⟩ := smallFrom_cons (c :: before) d r
          refine ih (fun e he => h e (by rwa [List.getLast?_cons_cons])) (c :: before) x ?_
          rw [heq', List.cons_append, List.getLast?_cons] at hx ⊢
          exact hx

/-- Blanks at the ends are not made. -/
theorem Trimmed.small {cs : List Char} (h : Trimmed cs) : Trimmed (small cs) where
  head x hx := by
    cases cs with
    | nil => cases hx
    | cons c r =>
        obtain ⟨y, piece, heq, hpiece⟩ := smallFrom_cons [] c r
        rw [Text.small, heq] at hx
        obtain rfl : y = x := Option.some.inj hx
        exact (hpiece y List.mem_cons_self).not_blank (h.head c rfl)
  last := getLast?_smallFrom h.last []

end StickerPages.Text
