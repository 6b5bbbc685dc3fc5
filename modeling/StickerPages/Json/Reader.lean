import StickerPages.Text.Digits
import StickerPages.Value

/-!
# Reading JSON

A recursive descent over the characters of a JSON text. Beyond the letter of the standard it
accepts `NaN`, `Infinity` and `-Infinity`; a number with a point or an exponent is a fraction, every
other one a whole number of any size. A key written twice keeps its first place and its last value.

Each nested value consumes at least its opening bracket, so the length of the text bounds the depth
of the recursion.
-/

namespace StickerPages.Json

/-- The four characters that may stand between the parts of a JSON text. -/
def isSpace (c : Char) : Bool :=
  c == ' ' || c == '\t' || c == '\n' || c == '\r'

/-- Drops spaces in front. -/
def skipSpace (cs : List Char) : List Char :=
  cs.dropWhile isSpace

/-- Four hexadecimal digits in front. -/
def hex4? : List Char → Option (Nat × List Char)
  | a :: b :: c :: d :: r => (Text.number? 16 [a, b, c, d]).map (·, r)
  | _ => none

/-- The character of an escape letter. -/
def escaped? : Char → Option Char
  | '"' => some '"'
  | '\\' => some '\\'
  | '/' => some '/'
  | 'b' => some '\x08'
  | 'f' => some '\x0c'
  | 'n' => some '\n'
  | 'r' => some '\r'
  | 't' => some '\t'
  | _ => none

/-- The character numbered `n`; the second half of a pair of surrogates is taken from `rest`. A
surrogate on its own stands for the replacement character. -/
def numbered (n : Nat) (rest : List Char) : Char × List Char :=
  if 0xD800 ≤ n && n < 0xDC00 then
    match rest with
    | '\\' :: 'u' :: r =>
      match hex4? r with
      | some (m, r') =>
        if 0xDC00 ≤ m && m < 0xE000 then
          (Char.ofNat (0x10000 + (n - 0xD800) * 0x400 + (m - 0xDC00)), r')
        else ('\uFFFD', rest)
      | none => ('\uFFFD', rest)
    | _ => ('\uFFFD', rest)
  else if 0xDC00 ≤ n && n < 0xE000 then ('\uFFFD', rest)
  else (Char.ofNat n, rest)

/-- The characters up to the closing quote mark, collected in reverse in `read`. -/
def stringTail : Nat → List Char → List Char → Option (String × List Char)
  | 0, _, _ => none
  | fuel + 1, read, cs =>
    match cs with
    | [] => none
    | '"' :: r => some (String.ofList read.reverse, r)
    | '\\' :: 'u' :: r => do
      let (n, r') ← hex4? r
      let (c, r'') := numbered n r'
      stringTail fuel (c :: read) r''
    | '\\' :: e :: r => do
      let c ← escaped? e
      stringTail fuel (c :: read) r
    | c :: r => if c.toNat < 0x20 then none else stringTail fuel (c :: read) r

/-- A point and at least one digit. -/
def fraction? : List Char → Option (List Char × List Char)
  | '.' :: r =>
    let ds := r.takeWhile Char.isDigit
    if ds.isEmpty then none else some (ds, r.dropWhile Char.isDigit)
  | _ => none

/-- An exponent mark, perhaps a sign, and at least one digit. -/
def exponent? : List Char → Option (Int × List Char)
  | c :: r =>
    if c == 'e' || c == 'E' then
      let (negative, r) := match r with
        | '+' :: r => (false, r)
        | '-' :: r => (true, r)
        | r => (false, r)
      let ds := r.takeWhile Char.isDigit
      if ds.isEmpty then none
      else
        let n : Int := Text.number 10 ds
        some (if negative then -n else n, r.dropWhile Char.isDigit)
    else none
  | [] => none

/-- A number after its sign. -/
def unsigned? (negative : Bool) (cs : List Char) : Option (Scalar × List Char) :=
  let (ds, rest) := match cs with
    | '0' :: r => (['0'], r)
    | cs => (cs.takeWhile Char.isDigit, cs.dropWhile Char.isDigit)
  if ds.isEmpty then none
  else
    let (fs, afterPoint, hasPoint) := match fraction? rest with
      | some (fs, r) => (fs, r, true)
      | none => ([], rest, false)
    let (e, afterExponent, hasExponent) := match exponent? afterPoint with
      | some (e, r) => (e, r, true)
      | none => (0, afterPoint, false)
    if hasPoint || hasExponent then
      some (.float (Decimal.ofDecimal negative (Text.number 10 (ds ++ fs)) (e - fs.length)),
        afterExponent)
    else
      let n : Int := Text.number 10 ds
      some (.int (if negative then -n else n), rest)

/-- A word or a number. -/
def scalar? (cs : List Char) : Option (Scalar × List Char) :=
  match cs with
  | 'n' :: 'u' :: 'l' :: 'l' :: r => some (.null, r)
  | 't' :: 'r' :: 'u' :: 'e' :: r => some (.bool true, r)
  | 'f' :: 'a' :: 'l' :: 's' :: 'e' :: r => some (.bool false, r)
  | 'N' :: 'a' :: 'N' :: r => some (.float (0.0 / 0.0), r)
  | 'I' :: 'n' :: 'f' :: 'i' :: 'n' :: 'i' :: 't' :: 'y' :: r => some (.float (1.0 / 0.0), r)
  | '-' :: 'I' :: 'n' :: 'f' :: 'i' :: 'n' :: 'i' :: 't' :: 'y' :: r =>
    some (.float (-1.0 / 0.0), r)
  | '-' :: r => unsigned? true r
  | cs => unsigned? false cs

mutual
/-- One value, and what follows it. -/
def value? : Nat → List Char → Option (Value × List Char)
  | 0, _ => none
  | fuel + 1, cs =>
    match cs with
    | '"' :: r => do
      let (s, r') ← stringTail (r.length + 1) [] r
      return (.text s, r')
    | '[' :: r =>
      match skipSpace r with
      | ']' :: r' => some (.list [], r')
      | r' => items? fuel [] r'
    | '\x7b' :: r =>
      match skipSpace r with
      | '\x7d' :: r' => some (.map [], r')
      | r' => entries? fuel [] r'
    | cs => (scalar? cs).map fun (s, r) => (.scalar s, r)

/-- The items of a list, from one item's start on. -/
def items? : Nat → List Value → List Char → Option (Value × List Char)
  | 0, _, _ => none
  | fuel + 1, read, cs => do
    let (v, r) ← value? fuel cs
    match skipSpace r with
    | ']' :: r' => return (.list (v :: read).reverse, r')
    | ',' :: r' => items? fuel (v :: read) (skipSpace r')
    | _ => none

/-- The pairs of a map, from one key's start on. -/
def entries? : Nat → Entries → List Char → Option (Value × List Char)
  | 0, _, _ => none
  | fuel + 1, read, cs =>
    match cs with
    | '"' :: r => do
      let (k, r') ← stringTail (r.length + 1) [] r
      match skipSpace r' with
      | ':' :: r'' => do
        let (v, rest) ← value? fuel (skipSpace r'')
        let written := Pairs.put read (.text k) v
        match skipSpace rest with
        | '\x7d' :: rest' => return (.map written, rest')
        | ',' :: rest' => entries? fuel written (skipSpace rest')
        | _ => none
      | _ => none
    | _ => none
end

/-- A whole JSON text: one value with spaces around it. -/
def read? (s : String) : Option Value := do
  let cs := skipSpace s.toList
  let (v, r) ← value? (cs.length + 1) cs
  if (skipSpace r).isEmpty then some v else none

end StickerPages.Json
