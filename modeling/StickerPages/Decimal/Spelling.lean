import StickerPages.Decimal.Shortest

/-!
# How numbers are written and read

`Spelling` holds the decisions of the one format in which this library writes fractions; the digits
themselves come from `Dyadic.shortest`. `ofDecimal` is the way back: the double nearest to a
decimal, whatever its size.
-/

namespace StickerPages.Decimal

/-- The decisions of a fraction's format. -/
structure Spelling where
  /-- The least number of digits in front of the point that calls for an exponent. -/
  exponentFrom : Int
  /-- The least number of leading zeros after the point that calls for an exponent. -/
  zerosFrom : Int
  /-- The least number of digits of an exponent. -/
  exponentWidth : Nat
  infinity : String
  notANumber : String

/-- Fractions are positional from 0.0001 up to below ten to the sixteenth, an exponent has a sign
and two digits at least, and a whole number keeps `.0`. -/
def fractions : Spelling := ⟨17, 4, 2, "inf", "nan"⟩

/-- An exponent with its sign. -/
def Spelling.exponent (s : Spelling) (e : Int) : String :=
  let ds := (toString e.natAbs)
  let pad := String.ofList (List.replicate (s.exponentWidth - ds.length) '0')
  (if e < 0 then "e-" else "e+") ++ pad ++ ds

/-- Drops zeros at the end of the digits, raising the exponent. -/
def Tenths.trimmed (t : Tenths) : List Char × Int :=
  let ds := (toString t.digits).toList
  let kept := (ds.reverse.dropWhile (· == '0')).reverse
  (kept, t.exponent + (ds.length - kept.length : Nat))

/-- A positive decimal in the given format. -/
def Spelling.write (s : Spelling) (t : Tenths) : String :=
  let (ds, k) := t.trimmed
  let point : Int := ds.length + k
  let text :=
    if s.exponentFrom ≤ point || point ≤ -s.zerosFrom then
      let tail := match ds with
        | [] => []
        | [d] => [d]
        | d :: r => d :: '.' :: r
      String.ofList tail ++ s.exponent (point - 1)
    else if point ≤ 0 then
      String.ofList ("0.".toList ++ List.replicate (-point).toNat '0' ++ ds)
    else if 0 ≤ k then
      String.ofList (ds ++ List.replicate k.toNat '0' ++ ".0".toList)
    else
      String.ofList (ds.take point.toNat ++ '.' :: ds.drop point.toNat)
  text

/-- A double in the given format. -/
def Spelling.float (s : Spelling) (x : Float) : String :=
  match Double.ofFloat x with
  | .nan => s.notANumber
  | .infinite negative => (if negative then "-" else "") ++ s.infinity
  | .zero negative => if negative then "-0.0" else "0.0"
  | .finite negative size => (if negative then "-" else "") ++ s.write size.shortest

/-- Ten to the power three hundred and ten exceeds every double, and ten to the power minus four
hundred rounds to zero; between them the nearest double is computed exactly. -/
def ofDecimal (negative : Bool) (digits : Nat) (exponent : Int) : Float :=
  let size : Int := (toString digits).length + exponent
  let x :=
    if digits == 0 then 0.0
    else if 310 < size then 1.0 / 0.0
    else if size < -400 then 0.0
    else Float.ofScientific digits (exponent < 0) exponent.natAbs
  if negative then -x else x

end StickerPages.Decimal
