import StickerPages.Decimal.Spelling
import StickerPages.Text.Blank
import StickerPages.Text.Digits
import StickerPages.Yaml.Cursor

/-!
# Numbers in YAML

Whole numbers are written in base ten, two (`0b`), eight (a leading `0`), sixteen (`0x`) or sixty
(`1:30`); underscores between the digits do not count. A fraction has a point, and an exponent only
with a sign; there are fractions in base sixty too. `isWhole` and `isFraction` say which plain texts
are numbers; `whole` and `fraction` read what has been called one, and may find that it is none.
-/

namespace StickerPages.Yaml

/-- A digit, or the underscore between digits. -/
def isDigitMark (c : Char) : Bool := c.isDigit || c == '_'

/-- A text without its sign. -/
def dropSign : List Char → List Char
  | '+' :: r => r
  | '-' :: r => r
  | cs => cs

/-- The parts behind the first colon are at most fifty-nine. -/
def areSixties (parts : List (List Char)) : Bool :=
  parts.all fun p =>
    match p with
    | [d] => d.isDigit
    | [c, d] => '0' ≤ c && c ≤ '5' && d.isDigit
    | _ => false

/-- A whole number in base sixty, of two parts at least. -/
def isSixty (leading : Char → Bool) (cs : List Char) : Bool :=
  match cs.splitOn ':' with
  | (c :: r) :: p :: ps => leading c && r.all isDigitMark && areSixties (p :: ps)
  | _ => false

/-- A digit other than zero. -/
def isLeadingDigit (c : Char) : Bool := c.isDigit && c != '0'

/-- A whole number without a sign. -/
def isUnsignedWhole (cs : List Char) : Bool :=
  (match cs with
  | ['0'] => true
  | '0' :: 'b' :: d :: r => (d :: r).all fun c => c == '0' || c == '1' || c == '_'
  | '0' :: 'x' :: d :: r =>
    (d :: r).all fun c => isDigitMark c || ('a' ≤ c.toLower && c.toLower ≤ 'f')
  | '0' :: d :: r => (d :: r).all fun c => ('0' ≤ c && c ≤ '7') || c == '_'
  | d :: r => isLeadingDigit d && r.all isDigitMark
  | [] => false) || isSixty isLeadingDigit cs

/-- A plain text that is a whole number. -/
def isWhole (cs : List Char) : Bool := isUnsignedWhole (dropSign cs)

/-- Digits behind the letter and the sign of an exponent, or nothing at all. -/
def isExponent (cs : List Char) : Bool :=
  match cs with
  | [] => true
  | e :: s :: d :: r => (e == 'e' || e == 'E') && (s == '+' || s == '-') && (d :: r).all Char.isDigit
  | _ => false

/-- Digits and then perhaps an exponent. -/
def isTail (cs : List Char) : Bool := isExponent (cs.dropWhile isDigitMark)

/-- What stands in front of the first point, and what stands behind it. -/
def cutPoint (cs : List Char) : List Char × Option (List Char) :=
  (cs.takeWhile (· != '.'),
    match cs.dropWhile (· != '.') with
    | [] => none
    | _ :: r => some r)

/-- A fraction without a sign. -/
def isUnsignedFraction (cs : List Char) : Bool :=
  match cutPoint cs with
  | (d :: r, some tail) =>
    (d.isDigit && r.all isDigitMark && isTail tail) ||
      (isSixty Char.isDigit (d :: r) && tail.all isDigitMark)
  | _ => false

/-- A plain text that is a fraction. A fraction that begins with its point has no sign. -/
def isFraction (cs : List Char) : Bool :=
  isUnsignedFraction (dropSign cs) ||
    (match cs with
    | '.' :: d :: r => d.isDigit && isTail r
    | _ => false) ||
    [".inf", ".Inf", ".INF"].any (fun w => w.toList == dropSign cs) ||
    [".nan", ".NaN", ".NAN"].any (fun w => w.toList == cs)

/-! ## Reading -/

/-- The whole number that digits of a base write; blanks may stand around them, and a sign in
front. -/
def digits? (base : Nat) (cs : List Char) : Option Int :=
  let cs := Text.trim cs
  let size := (Text.number? base (dropSign cs)).map Int.ofNat
  if cs.head? == some '-' then size.map (- ·) else size

/-- The number that parts in base sixty write. -/
def sixties? (parts : List (List Char)) : Option Int :=
  parts.foldlM (fun n p => (digits? 10 p).map (n * 60 + ·)) 0

/-- A whole number behind its sign, without underscores. -/
def unsignedWhole? (cs : List Char) : Option Int :=
  match cs with
  | '0' :: 'b' :: r => digits? 2 r
  | '0' :: 'x' :: r => digits? 16 r
  | '0' :: r => if r.isEmpty then some 0 else digits? 8 cs
  | cs => if cs.contains ':' then sixties? (cs.splitOn ':') else digits? 10 cs

/-- Reads what is called a whole number. -/
def whole (s : String) : Except Fault Int :=
  let cs := s.toList.filter (· != '_')
  if cs.isEmpty then .error .noDigits
  else
    let negative := cs.head? == some '-'
    if (dropSign cs).isEmpty then .error .noDigits
    else
      match unsignedWhole? (dropSign cs) with
      | some n => .ok (if negative then -n else n)
      | none => .error (.notNumber s)

/-- A decimal with a point or an exponent or neither, without a sign. -/
def decimal? (cs : List Char) : Option Float :=
  let ds := cs.takeWhile Char.isDigit
  let (fs, rest) := match cs.dropWhile Char.isDigit with
    | '.' :: r => (r.takeWhile Char.isDigit, r.dropWhile Char.isDigit)
    | r => ([], r)
  let exponent : Option Int := match rest with
    | [] => some 0
    | e :: r =>
      if e == 'e' then
        let n := (Text.number? 10 (dropSign r)).map Int.ofNat
        if r.head? == some '-' then n.map (- ·) else n
      else none
  match exponent, Text.number? 10 (ds ++ fs) with
  | some e, some n => some (Decimal.ofDecimal false n (e - fs.length))
  | _, _ => none

/-- A decimal, an infinity or no number at all, written in small letters; blanks may stand around it,
and a sign in front. -/
def numeral? (cs : List Char) : Option Float :=
  let cs := Text.trim cs
  let size :=
    if ["inf", "infinity"].any fun w => w.toList == dropSign cs then some (1.0 / 0.0)
    else if "nan".toList == dropSign cs then some (0.0 / 0.0)
    else decimal? (dropSign cs)
  if cs.head? == some '-' then size.map (- ·) else size

/-- The fraction that parts in base sixty write, summed from the last part on. -/
def sixtyParts : Float → Float → List Float → Float
  | sum, _, [] => sum
  | sum, base, p :: r => sixtyParts (sum + p * base) (base * 60) r

/-- A fraction behind its sign, without underscores and in small letters. -/
def unsignedFraction? (cs : List Char) : Option Float :=
  if cs == ".inf".toList then some (1.0 / 0.0)
  else if cs == ".nan".toList then some (0.0 / 0.0)
  else if cs.contains ':' then
    ((cs.splitOn ':').mapM numeral?).map fun parts => sixtyParts 0.0 1.0 parts.reverse
  else numeral? cs

/-- Reads what is called a fraction. -/
def fraction (s : String) : Except Fault Float :=
  let cs := (s.toList.filter (· != '_')).map Char.toLower
  if (dropSign cs).isEmpty then .error .noDigits
  else
    match unsignedFraction? (dropSign cs) with
    | some x => .ok (if cs.head? == some '-' then -x else x)
    | none => .error (.notNumber s)

end StickerPages.Yaml
