/-!
# Bytes that hold a JSON text

A JSON text begins with two characters that take one byte each, unless it is a single one. So the
zeros among its first four bytes tell in which way its characters were written: in bytes, or in units
of two or four bytes with the greater byte first or last. Servers that send bytes may put a mark in
front of them; no other mark can be written with the characters of a body.
-/

namespace StickerPages.Remote

/-- How characters are written in bytes. -/
inductive Encoding where
  | bytes
  /-- In bytes, with a mark in front. -/
  | marked
  /-- In units of two bytes. -/
  | pairs (greatFirst : Bool)
  /-- In units of four bytes. -/
  | quads (greatFirst : Bool)
deriving DecidableEq, Repr

/-- What the first bytes say about the encoding. -/
def Encoding.ofBytes (bs : List Nat) : Encoding :=
  match bs with
  | 0xef :: 0xbb :: 0xbf :: _ => .marked
  | a :: b :: c :: d :: _ =>
    if a = 0 then if b = 0 then .quads true else .pairs true
    else if b = 0 then if c = 0 && d = 0 then .quads false else .pairs false
    else .bytes
  | [a, b] => if a = 0 then .pairs true else if b = 0 then .pairs false else .bytes
  | _ => .bytes

/-- Numbers from units of two bytes; nothing if a byte is left over. -/
def pairs? (greatFirst : Bool) : List Nat → Option (List Nat)
  | [] => some []
  | a :: b :: r =>
    let n := if greatFirst then a * 0x100 + b else b * 0x100 + a
    (pairs? greatFirst r).map (n :: ·)
  | [_] => none

/-- Numbers from units of four bytes; nothing if bytes are left over. -/
def quads? (greatFirst : Bool) : List Nat → Option (List Nat)
  | [] => some []
  | a :: b :: c :: d :: r =>
    let n :=
      if greatFirst then ((a * 0x100 + b) * 0x100 + c) * 0x100 + d
      else ((d * 0x100 + c) * 0x100 + b) * 0x100 + a
    (quads? greatFirst r).map (n :: ·)
  | _ => none

/-- The character numbered `n`. A surrogate on its own stands for the replacement character. -/
def characterNumbered (n : Nat) : Char :=
  if 0xd800 ≤ n && n < 0xe000 then '\ufffd' else Char.ofNat n

/-- Characters from numbers below 0x10000, of which two surrogates make one character. -/
def joinSurrogates : List Nat → List Char
  | [] => []
  | [n] => [characterNumbered n]
  | m :: n :: r =>
    if 0xd800 ≤ m && m < 0xdc00 && 0xdc00 ≤ n && n < 0xe000 then
      Char.ofNat (0x10000 + (m - 0xd800) * 0x400 + (n - 0xdc00)) :: joinSurrogates r
    else characterNumbered m :: joinSurrogates (n :: r)

/-- The characters that a body's bytes stand for when a JSON text is to be read from them. -/
def recode? (body : String) : Option String :=
  let bs := body.toUTF8.data.toList.map UInt8.toNat
  match Encoding.ofBytes bs with
  | .bytes => some body
  | .marked => some (String.ofList (body.toList.drop 1))
  | .pairs greatFirst => (pairs? greatFirst bs).map fun ns => String.ofList (joinSurrogates ns)
  | .quads greatFirst => do
    let ns ← quads? greatFirst bs
    if ns.all (· ≤ 0x10ffff) then some (String.ofList (ns.map characterNumbered)) else none

end StickerPages.Remote
