import Mathlib.Algebra.Field.Rat
import Mathlib.Algebra.Order.Field.Basic
import Mathlib.Data.Rat.Cast.Order
import Mathlib.Tactic.NormNum
import StickerPages.Value

/-!
# When two scalars are the same

Keys of a map are compared across kinds of number: `1`, `1.0` and `true` are one key. Five
comparisons share this work, and that they fit together is not to be seen from any of them. It is
because all of them compare one thing, what a scalar is worth: a rational number, a text, and so on
(`same_iff`). So sameness is symmetric and transitive (`beq_symm`, `beq_trans`). It is not reflexive,
for what is not a number is worth nothing and is not the same as itself.

For two fractions this takes that a double is canonical: as its mantissa is as long as it can be, a
number has one double only (`Canonical.value_inj`), zero excepted.
-/

namespace StickerPages

/-- What a scalar is worth in a comparison. -/
inductive Worth where
  | null
  | text (s : String)
  | stamp (kind plain : String)
  | number (r : ℚ)
  | infinite (negative : Bool)

namespace Decimal

open Float.Model

/-! ## Fractions as numbers -/

/-- The rational number `m · 2^q`. -/
def Dyadic.value (x : Dyadic) : ℚ := x.m * 2 ^ x.q

/-- The mantissa is as long as fifty-three bits and the least exponent allow. -/
structure Dyadic.Canonical (x : Dyadic) : Prop where
  positive : 0 < x.m
  short : x.m < 2 ^ 53
  least : -1074 ≤ x.q
  long : x.q = -1074 ∨ 2 ^ 52 ≤ x.m

/-- A fraction is a natural number of grains that are fine enough. -/
theorem Dyadic.value_mul (x : Dyadic) (grain k : ℕ) (h : x.q + grain = k) :
    x.value * 2 ^ grain = ((x.m * 2 ^ k : ℕ) : ℚ) := by
  rw [value, mul_assoc, ← zpow_natCast, ← zpow_add₀ (by norm_num), h, zpow_natCast]
  push_cast
  rfl

theorem Dyadic.value_pos {x : Dyadic} (h : 0 < x.m) : 0 < x.value := by
  exact mul_pos (Nat.cast_pos.mpr h) (zpow_pos (by norm_num) x.q)

/-- **A number has one canonical fraction.** -/
theorem Dyadic.Canonical.value_inj {x y : Dyadic} (hx : x.Canonical) (hy : y.Canonical)
    (h : x.value = y.value) : x.m = y.m ∧ x.q = y.q := by
  -- a larger exponent calls for a long mantissa, and that is too much for the other side
  have hle {x y : Dyadic} (hx : x.Canonical) (hy : y.Canonical) (h : x.value = y.value) :
      y.q ≤ x.q := by
    by_contra hlt
    have hlong := hy.long.resolve_left (by have := hx.least; omega)
    obtain ⟨k, hk⟩ : ∃ k : ℕ, x.q + 1074 = k := ⟨_, (Int.toNat_of_nonneg (by
      have := hx.least
      omega)).symm⟩
    obtain ⟨j, hj⟩ : ∃ j : ℕ, y.q = x.q + 1 + j := ⟨(y.q - x.q - 1).toNat, by omega⟩
    have hgrains := x.value_mul 1074 k hk
    rw [h, y.value_mul 1074 (1 + j + k) (by omega), Nat.cast_inj, pow_add, ← mul_assoc] at hgrains
    have : 2 ^ 53 ≤ x.m := calc
      2 ^ 53 = 2 ^ 52 * 2 ^ 1 := by norm_num
      _ ≤ y.m * 2 ^ (1 + j) :=
        Nat.mul_le_mul hlong (Nat.pow_le_pow_right (by norm_num) (by omega))
      _ = x.m := Nat.eq_of_mul_eq_mul_right (Nat.two_pow_pos k) hgrains
    exact absurd hx.short (by omega)
  have hq : x.q = y.q := le_antisymm (hle hy hx h.symm) (hle hx hy h)
  have hpower : (2 : ℚ) ^ y.q ≠ 0 := zpow_ne_zero y.q (by norm_num)
  rw [value, value, hq, mul_left_inj' hpower, Nat.cast_inj] at h
  exact ⟨h, hq⟩

/-! ## Doubles by their parts -/

/-- The sign as it stands in a double. -/
def isNegative : UnpackedFloat.Sign → Bool
  | .negative => true
  | .positive => false

/-- The parts of a double, as they are read from it here and as its comparison reads them. -/
inductive Double.Has : Double → UnpackedFloat → Prop
  | nan : Has .nan .notANumber
  | infinite (sign : UnpackedFloat.Sign) : Has (.infinite (isNegative sign)) (.infinity sign)
  | zero (negative : Bool) (sign : UnpackedFloat.Sign) : Has (.zero negative) (.zero sign)
  | finite (sign : UnpackedFloat.Sign) {x : Dyadic} {m : Nat} {e : Int} (positive : 0 < m)
      (mantissa : x.m = m) (exponent : x.q = e) (canonical : x.Canonical) :
      Has (.finite (isNegative sign) x) (.finite sign m e positive)

section

variable (b : BitVec 64)

theorem toNat_unpackExponent :
    (@UnpackedFloat.unpackExponent .binary64 b).toNat = b.toNat / 2 ^ 52 % 2 ^ 11 := by
  simp [UnpackedFloat.unpackExponent, BitVec.extractLsb_toNat, Nat.shiftRight_eq_div_pow]

theorem toNat_unpackMantissa :
    (@UnpackedFloat.unpackMantissa .binary64 b).toNat = b.toNat % 2 ^ 52 := by
  simp [UnpackedFloat.unpackMantissa, BitVec.extractLsb_toNat]

theorem toNat_unpackSign :
    (@UnpackedFloat.unpackSign .binary64 b).toNat = b.toNat / 2 ^ 63 % 2 := by
  change (BitVec.extractLsb 63 63 (b : BitVec 64)).toNat = _
  simp [BitVec.extractLsb_toNat, Nat.shiftRight_eq_div_pow]

theorem isNegative_unpackSign :
    isNegative (.ofBitVec (@UnpackedFloat.unpackSign .binary64 b)) =
      (b.toNat / 2 ^ 63 % 2 == 1) := by
  have hsign := toNat_unpackSign b
  unfold UnpackedFloat.Sign.ofBitVec
  split
  · next h =>
    rw [h] at hsign
    rw [← hsign]
    rfl
  · next h =>
    have hne : b.toNat / 2 ^ 63 % 2 ≠ 0 := fun h0 => h (BitVec.eq_of_toNat_eq (hsign.trans h0))
    have hone : b.toNat / 2 ^ 63 % 2 = 1 := by omega
    rw [hone]
    rfl

/-- **Taking the bits apart** gives the parts that comparison looks at. -/
theorem ofBits_has : (Double.ofBits b.toNat).Has (UnpackedFloat.unpack .binary64 b) := by
  have hexponent : b.toNat / twoTo 52 % twoTo 11 = _ := (toNat_unpackExponent b).symm
  have hmantissa : b.toNat % twoTo 52 = _ := (toNat_unpackMantissa b).symm
  have hnegative : (b.toNat / twoTo 63 % 2 == 1) = _ := (isNegative_unpackSign b).symm
  have hlt : (@UnpackedFloat.unpackMantissa .binary64 b).toNat < 2 ^ 52 :=
    BitVec.isLt _
  have hzero : (@UnpackedFloat.unpackMantissa .binary64 b).toNat = 0 ↔
      @UnpackedFloat.unpackMantissa .binary64 b = 0#52 := BitVec.toNat_inj (y := 0#52)
  unfold Double.ofBits UnpackedFloat.unpack
  dsimp only
  rw [hexponent, hmantissa, hnegative]
  by_cases hlast : @UnpackedFloat.unpackExponent .binary64 b = -1#11
  · -- the last exponent is that of infinity and of what is no number
    rw [if_pos hlast, hlast, if_pos (by rfl)]
    by_cases hf : @UnpackedFloat.unpackMantissa .binary64 b = 0#52
    · rw [if_pos hf, hf]
      exact .infinite _
    · rw [if_neg hf, if_neg (by simpa using fun h => hf (hzero.mp h))]
      exact .nan
  · have hne : ¬ ((@UnpackedFloat.unpackExponent .binary64 b).toNat == 2047) = true :=
      fun h => hlast (BitVec.eq_of_toNat_eq (eq_of_beq h))
    rw [if_neg hlast, if_neg hne]
    by_cases hfirst : @UnpackedFloat.unpackExponent .binary64 b = 0#11
    · -- the first exponent is that of zero and of short mantissas
      rw [if_pos hfirst, hfirst, if_pos (by rfl)]
      by_cases hf : @UnpackedFloat.unpackMantissa .binary64 b = 0#52
      · rw [dif_pos hf, hf]
        exact .zero _ _
      · have hpos := Nat.pos_of_ne_zero fun h => hf (hzero.mp h)
        rw [dif_neg hf, if_neg (by simpa using hpos.ne')]
        refine .finite _ _ rfl rfl ⟨hpos, ?_, le_rfl, .inl rfl⟩
        dsimp only
        omega
    · have hne' : ¬ ((@UnpackedFloat.unpackExponent .binary64 b).toNat == 0) = true :=
        fun h => hfirst (BitVec.eq_of_toNat_eq (eq_of_beq h))
      rw [if_neg hfirst, if_neg hne']
      have hlong : twoTo 52 + (@UnpackedFloat.unpackMantissa .binary64 b).toNat =
          (1#1 ++ @UnpackedFloat.unpackMantissa .binary64 b).toNat := by
        rw [BitVec.toNat_append, ← Nat.shiftLeft_add_eq_or_of_lt hlt]
        rfl
      have hpos : (@UnpackedFloat.unpackExponent .binary64 b).toNat ≠ 0 :=
        fun h => hne' (beq_iff_eq.mpr h)
      have htwo : twoTo 52 = 2 ^ 52 := rfl
      refine .finite _ _ hlong rfl ⟨?_, ?_, ?_, .inr ?_⟩
      all_goals dsimp only
      all_goals omega

end

/-! ## What a double is worth -/

/-- What a double is worth, if it is a number. -/
def Double.worth? : Double → Option Worth
  | .nan => none
  | .infinite negative => some (.infinite negative)
  | .zero _ => some (.number 0)
  | .finite negative x => some (.number (if negative then -x.value else x.value))

theorem value_eq_iff {x y : Dyadic} (hx : x.Canonical) (hy : y.Canonical) :
    x.value = y.value ↔ x.q = y.q ∧ x.m = y.m :=
  ⟨fun h => (hx.value_inj hy h).symm, fun ⟨hq, hm⟩ => by rw [Dyadic.value, hm, hq, Dyadic.value]⟩

/-- **Doubles compare as equal exactly if they are worth the same.** -/
theorem Double.Has.compare_iff {d e : Double} {u v : UnpackedFloat} (hd : d.Has u) (he : e.Has v) :
    (u.compare v == some .eq) = true ↔ ∃ w, d.worth? = some w ∧ e.worth? = some w := by
  cases hd with
  | nan =>
      dsimp only [UnpackedFloat.compare]
      simp [worth?]
  | infinite sign =>
      cases he with
      | infinite sign' =>
          cases sign <;> cases sign' <;> dsimp only [UnpackedFloat.compare] <;>
            simp [worth?, isNegative] <;> decide
      | _ => cases sign <;> dsimp only [UnpackedFloat.compare] <;> simp [worth?]
  | zero negative sign =>
      cases he with
      | finite sign' positive mantissa exponent canonical =>
          have hne := (Dyadic.value_pos canonical.positive).ne'
          cases sign' <;> dsimp only [UnpackedFloat.compare] <;> simp [worth?, isNegative, hne]
      | infinite sign' => cases sign' <;> dsimp only [UnpackedFloat.compare] <;> simp [worth?]
      | _ =>
          dsimp only [UnpackedFloat.compare]
          simp [worth?]
  | @finite sign x _ _ positive mantissa exponent canonical =>
      have hpos := Dyadic.value_pos canonical.positive
      cases he with
      | @finite sign' y _ _ positive' mantissa' exponent' canonical' =>
          subst mantissa exponent mantissa' exponent'
          -- of one sign the values decide, and of two signs none is the other
          have hvalue : y.value = x.value ↔ x.q = y.q ∧ x.m = y.m :=
            eq_comm.trans (value_eq_iff canonical canonical')
          have hpos' := Dyadic.value_pos canonical'.positive
          have hne : y.value ≠ -x.value := ((neg_lt_zero.mpr hpos).trans hpos').ne'
          have hne' : -y.value ≠ x.value := ((neg_lt_zero.mpr hpos').trans hpos).ne
          cases sign <;> cases sign' <;> dsimp only [UnpackedFloat.compare] <;>
            simp [worth?, isNegative, hvalue, hne, hne']
      | infinite sign' =>
          cases sign <;> cases sign' <;> dsimp only [UnpackedFloat.compare] <;> simp [worth?]
      | _ =>
          cases sign <;> dsimp only [UnpackedFloat.compare] <;>
            simp [worth?, isNegative, hpos.ne, hpos.ne']

theorem ofFloat_has (x : Float) : (Double.ofFloat x).Has x.toModel.unpack :=
  ofBits_has x.toModel.toBits.toBitVec

/-- A whole number is compared with what the double is worth. -/
theorem Double.Has.isInt_iff {d : Double} {u : UnpackedFloat} (hd : d.Has u) (n : ℤ) :
    d.isInt n = true ↔ d.worth? = some (.number n) := by
  cases hd with
  | nan => simp [isInt, worth?]
  | infinite sign => simp [isInt, worth?]
  | zero negative sign =>
      rw [isInt, beq_iff_eq, worth?, Option.some_inj, Worth.number.injEq, eq_comm (a := (0 : ℚ)),
        Int.cast_eq_zero]
  | @finite sign x _ _ positive mantissa exponent canonical =>
      have hpos := Dyadic.value_pos canonical.positive
      have hsize : n.natAbs * twoTo (-x.q).toNat = x.m * twoTo x.q.toNat ↔ x.value = |(n : ℚ)| := by
        have hgrain : (2 : ℚ) ^ (-x.q).toNat ≠ 0 := pow_ne_zero _ (by norm_num)
        have hgrains := x.value_mul (-x.q).toNat x.q.toNat (by omega)
        change n.natAbs * 2 ^ (-x.q).toNat = x.m * 2 ^ x.q.toNat ↔ _
        rw [← Nat.cast_inj (R := ℚ), ← hgrains, Nat.cast_mul, Nat.cast_natAbs, Nat.cast_pow,
          Nat.cast_ofNat, Int.cast_abs, mul_left_inj' hgrain, eq_comm]
      cases sign with
      | negative =>
          rw [isInt, isNegative, if_pos rfl, Bool.and_eq_true, decide_eq_true_iff, beq_iff_eq, hsize,
            worth?, if_pos rfl, Option.some_inj, Worth.number.injEq]
          constructor
          · rintro ⟨hn, hvalue⟩
            rw [hvalue, abs_of_neg (Int.cast_lt_zero.mpr hn), neg_neg]
          · intro hvalue
            have hn : (n : ℚ) < 0 := hvalue ▸ neg_lt_zero.mpr hpos
            exact ⟨Int.cast_lt_zero.mp hn, by rw [abs_of_neg hn, ← hvalue, neg_neg]⟩
      | positive =>
          rw [isInt, isNegative, if_neg (by decide), Bool.and_eq_true, decide_eq_true_iff, beq_iff_eq,
            hsize, worth?, if_neg (by decide), Option.some_inj, Worth.number.injEq]
          constructor
          · rintro ⟨hn, hvalue⟩
            rw [hvalue, abs_of_pos (Int.cast_pos.mpr hn)]
          · intro hvalue
            have hn : 0 < (n : ℚ) := hvalue ▸ hpos
            exact ⟨Int.cast_pos.mp hn, by rw [abs_of_pos hn, hvalue]⟩

end Decimal

namespace Scalar

/-- What the scalar is worth; nothing, if it is no number but should be one. -/
def worth? : Scalar → Option Worth
  | .null => some .null
  | .bool b => some (.number (if b then 1 else 0 : ℤ))
  | .int n => some (.number n)
  | .float x => (Decimal.Double.ofFloat x).worth?
  | .text s => some (.text s)
  | .stamp k p _ => some (.stamp k p)

/-- A double is worth no text and nothing of the like. -/
theorem worth?_double (d : Decimal.Double) : d.worth? ≠ some .null ∧
    (∀ s, d.worth? ≠ some (.text s)) ∧ ∀ k p, d.worth? ≠ some (.stamp k p) := by
  cases d <;> simp [Decimal.Double.worth?]

section

variable {a b : Scalar} {m n : ℤ}

theorem worth?_of_whole (h : a.whole? = some m) : a.worth? = some (.number m) := by
  cases a with
  | bool b =>
      cases h
      rfl
  | int k =>
      cases h
      rfl
  | _ => cases h

theorem same_of_whole (ha : a.whole? = some m) (hb : b.whole? = some n) :
    same a b = (m == n) := by
  cases a <;> cases ha <;> cases b <;> cases hb <;> rfl

/-- A whole number against anything. -/
theorem same_whole_iff (ha : a.whole? = some m) (b : Scalar) :
    same a b = true ↔ ∃ w, a.worth? = some w ∧ b.worth? = some w := by
  rw [worth?_of_whole ha]
  cases hb : b.whole? with
  | some n =>
      rw [same_of_whole ha hb, worth?_of_whole hb]
      simp [eq_comm (a := m)]
  | none =>
      cases b with
      | float y =>
          have hsame : same a (.float y) = (Decimal.Double.ofFloat y).isInt m := by
            cases a <;> cases ha <;> rfl
          simp [hsame, (Decimal.ofFloat_has y).isInt_iff, worth?]
      | bool b => cases hb
      | int n => cases hb
      | null =>
          have hsame : same a .null = false := by cases a <;> cases ha <;> rfl
          simp [hsame, worth?]
      | text s =>
          have hsame : same a (.text s) = false := by cases a <;> cases ha <;> rfl
          simp [hsame, worth?]
      | stamp k p q =>
          have hsame : same a (.stamp k p q) = false := by cases a <;> cases ha <;> rfl
          simp [hsame, worth?]

end

/-- **Two scalars are the same exactly if they are worth the same.** -/
theorem same_iff (a b : Scalar) : (a == b) = true ↔ ∃ w, a.worth? = some w ∧ b.worth? = some w := by
  change same a b = true ↔ _
  cases a with
  | bool a => exact same_whole_iff rfl b
  | int m => exact same_whole_iff rfl b
  | float x =>
      have hwhole (n : ℤ) : (Decimal.Double.ofFloat x).isInt n = true ↔
          ∃ w, (Decimal.Double.ofFloat x).worth? = some w ∧ some (.number n) = some w := by
        rw [(Decimal.ofFloat_has x).isInt_iff]
        simp
      cases b with
      | float y => exact (Decimal.ofFloat_has x).compare_iff (Decimal.ofFloat_has y)
      | bool b => exact hwhole _
      | int n => exact hwhole n
      | _ => simp [same, whole?, worth?, worth?_double]
  | null => cases b <;> simp [same, whole?, worth?, worth?_double]
  | text s => cases b <;> simp [same, whole?, worth?, worth?_double, eq_comm (a := s)]
  | stamp k p q =>
      cases b <;> simp [same, whole?, worth?, worth?_double, eq_comm (a := k), eq_comm (a := p)]

theorem beq_symm {a b : Scalar} (h : (a == b) = true) : (b == a) = true := by
  obtain ⟨w, ha, hb⟩ := (same_iff a b).mp h
  exact (same_iff b a).mpr ⟨w, hb, ha⟩

theorem beq_trans {a b c : Scalar} (h : (a == b) = true) (h' : (b == c) = true) :
    (a == c) = true := by
  obtain ⟨w, ha, hb⟩ := (same_iff a b).mp h
  obtain ⟨w', hb', hc⟩ := (same_iff b c).mp h'
  obtain rfl : w = w' := Option.some.inj (hb.symm.trans hb')
  exact (same_iff a c).mpr ⟨w, ha, hc⟩

end Scalar

end StickerPages
