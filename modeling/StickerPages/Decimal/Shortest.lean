/-!
# The shortest decimal of a binary fraction

A finite double is `m · 2^q`, and the reals that round to it form an interval around it, its ends
included exactly when `m` is even. `shortest` walks the grids of one, two, … seventeen decimal
digits and takes the first grid with a point inside the interval; of two such points it takes the
nearer one, and of two equally near ones the even one. On each grid only the two neighbours of the
value have to be looked at, because the interval has no gaps. All comparisons are exact, in natural
numbers.
-/

namespace StickerPages.Decimal

/-- A positive binary fraction `m · 2^q`. `wide` holds when the double below is as far away as the
double above, so that the interval reaches equally far on both sides. -/
structure Dyadic where
  m : Nat
  q : Int
  wide : Bool

/-- A positive decimal `digits · 10^exponent`. -/
structure Tenths where
  digits : Nat
  exponent : Int
deriving DecidableEq, Repr

/-- A power of two. -/
def twoTo (n : Nat) : Nat := Nat.pow 2 n

/-- A power of ten. -/
def tenTo (n : Nat) : Nat := Nat.pow 10 n

/-- `a · 2^q ≤ d · 10^k`, by cross multiplication. -/
def binaryLe (a : Nat) (q : Int) (d : Nat) (k : Int) : Bool :=
  a * twoTo q.toNat * tenTo (-k).toNat ≤ d * tenTo k.toNat * twoTo (-q).toNat

/-- `d · 10^k ≤ a · 2^q`, by cross multiplication. -/
def decimalLe (d : Nat) (k : Int) (a : Nat) (q : Int) : Bool :=
  d * tenTo k.toNat * twoTo (-q).toNat ≤ a * twoTo q.toNat * tenTo (-k).toNat

/-- The decimal lies among the reals that round to `x`. -/
def Dyadic.admits (x : Dyadic) (d : Nat) (k : Int) : Bool :=
  let low := if x.wide then 4 * x.m - 2 else 4 * x.m - 1
  let high := 4 * x.m + 2
  let ends := x.m % 2 == 0
  let aboveLow :=
    if ends then binaryLe low (x.q - 2) d k else !decimalLe d k low (x.q - 2)
  let belowHigh :=
    if ends then decimalLe d k high (x.q - 2) else !binaryLe high (x.q - 2) d k
  aboveLow && belowHigh

/-- The largest `d` with `d · 10^k ≤ x`. -/
def Dyadic.floorAt (x : Dyadic) (k : Int) : Nat :=
  (x.m * twoTo x.q.toNat * tenTo (-k).toNat) / (tenTo k.toNat * twoTo (-x.q).toNat)

/-- The nearer to `x` of `d` and `d + 1`, both at exponent `k`; of two equally near ones, the even
one. -/
def Dyadic.nearer (x : Dyadic) (d : Nat) (k : Int) : Nat :=
  let notAbove := binaryLe (2 * x.m) x.q (2 * d + 1) k
  let notBelow := decimalLe (2 * d + 1) k (2 * x.m) x.q
  if notAbove && !(notBelow && d % 2 == 1) then d else d + 1

/-- One of the two neighbours is chosen. -/
theorem Dyadic.nearer_eq_or (x : Dyadic) (d : Nat) (k : Int) :
    x.nearer d k = d ∨ x.nearer d k = d + 1 := by
  simp only [nearer]
  split <;> simp

/-- The point of the grid `10^k` that reads back as `x` and lies nearest to it. -/
def Dyadic.onGrid? (x : Dyadic) (k : Int) : Option Tenths :=
  let d := x.floorAt k
  match x.admits d k, x.admits (d + 1) k with
  | true, true => some ⟨x.nearer d k, k⟩
  | true, false => some ⟨d, k⟩
  | false, true => some ⟨d + 1, k⟩
  | false, false => none

/-- The number of decimal digits in front of the point; zero and below for small fractions. -/
def Dyadic.magnitudeFrom (x : Dyadic) : Nat → Int → Int
  | 0, e => e
  | n + 1, e => if decimalLe 1 e x.m x.q then e + 1 else Dyadic.magnitudeFrom x n (e - 1)

/-- `10^(magnitude - 1) ≤ x < 10^magnitude`. -/
def Dyadic.magnitude (x : Dyadic) : Int :=
  x.magnitudeFrom 700 309

/-- The first grid with a hit, from `n` digits on. -/
def Dyadic.shortestFrom (x : Dyadic) (magnitude : Int) : Nat → Nat → Tenths
  | 0, n => ⟨x.floorAt (magnitude - n), magnitude - n⟩
  | fuel + 1, n =>
    match x.onGrid? (magnitude - n) with
    | some t => t
    | none => x.shortestFrom magnitude fuel (n + 1)

/-- The decimal with fewest digits that reads back as `x`, the nearest of those; of two equally near
ones, the one that ends in an even digit. -/
def Dyadic.shortest (x : Dyadic) : Tenths :=
  x.shortestFrom x.magnitude 17 1

/-- A double by its parts. -/
inductive Double where
  | nan
  | infinite (negative : Bool)
  | zero (negative : Bool)
  | finite (negative : Bool) (size : Dyadic)

/-- Takes the sixty-four bits of a double apart. -/
def Double.ofBits (bits : Nat) : Double :=
  let negative := bits / twoTo 63 % 2 == 1
  let e : Nat := bits / twoTo 52 % twoTo 11
  let f : Nat := bits % twoTo 52
  if e == 2047 then (if f == 0 then .infinite negative else .nan)
  else if e == 0 then
    (if f == 0 then .zero negative else .finite negative ⟨f, -1074, true⟩)
  else .finite negative ⟨twoTo 52 + f, (e : Int) - 1075, f != 0 || e == 1⟩

/-- The parts of a double. -/
def Double.ofFloat (x : Float) : Double :=
  .ofBits x.toBits.toNat

/-- The double is this whole number, exactly. -/
def Double.isInt (n : Int) : Double → Bool
  | .nan | .infinite _ => false
  | .zero _ => n == 0
  | .finite negative x =>
    let size := x.m * twoTo x.q.toNat
    let unit := twoTo (-x.q).toNat
    (if negative then decide (n < 0) else decide (0 < n)) && n.natAbs * unit == size

end StickerPages.Decimal
