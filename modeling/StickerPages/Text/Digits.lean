/-!
# Digits

What digits write, in any base up to sixteen, and hexadecimal digits for writing. Reading is total:
`number` takes whatever is no digit for a zero, and `number?` refuses it. Numbers set apart by signs, as
in dates and times, are read by `someDigits?` and `behind?` in turn.
-/

namespace StickerPages.Text

/-- The value of a digit. -/
def digit? (c : Char) : Option Nat :=
  if '0' ≤ c && c ≤ '9' then some (c.toNat - 48)
  else if 'a' ≤ c && c ≤ 'f' then some (c.toNat - 87)
  else if 'A' ≤ c && c ≤ 'F' then some (c.toNat - 55)
  else none

/-- A digit of a hexadecimal number. -/
def isHexDigit (c : Char) : Bool := (digit? c).isSome

/-- The number that digits of a base write. -/
def number (base : Nat) (ds : List Char) : Nat :=
  ds.foldl (fun n d => n * base + (digit? d).getD 0) 0

/-- A digit of a base. -/
def isDigitOf (base : Nat) (c : Char) : Bool :=
  match digit? c with
  | some d => d < base
  | none => false

/-- The number that one or more digits of a base write. -/
def number? (base : Nat) (ds : List Char) : Option Nat :=
  if !ds.isEmpty && ds.all (isDigitOf base) then some (number base ds) else none

/-- From `least` to `most` decimal digits, as many as there are: their number, and what follows. -/
def someDigits? (least most : Nat) (cs : List Char) : Option (Nat × List Char) :=
  let ds := (cs.takeWhile Char.isDigit).take most
  if ds.length < least then none else (number? 10 ds).map (·, cs.drop ds.length)

/-- What stands behind a sign that has to come. -/
def behind? (sign : Char) : List Char → Option (List Char)
  | c :: r => if c == sign then some r else none
  | [] => none

/-- The hexadecimal digits of `n`, small letters, at least `width` of them. -/
def hexDigits (width n : Nat) : List Char :=
  let ds := Nat.toDigits 16 n
  List.replicate (width - ds.length) '0' ++ ds

end StickerPages.Text
