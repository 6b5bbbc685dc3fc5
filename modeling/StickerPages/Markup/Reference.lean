import StickerPages.Markup.Reference.Names
import StickerPages.Text.Digits

/-!
# Character references

A page writes a character it cannot or will not spell by name, `&lt;`, or by number, `&#x3C;`.
There are two readings. In an attribute `decode` resolves every reference it recognises, the longest
known name winning, and leaves the rest alone. In running text a reference is recognised by its
shape first; then `ofName` and `ofNumber` give the text it stands for.

`encode` is the way out: the three characters that markup gives a meaning.
-/

namespace StickerPages.Markup

/-- The text that a list of code points spells. -/
def ofCodePoints (ns : List Nat) : List Char :=
  ns.map Char.ofNat

/-- The character a name stands for, the name without its semicolon. -/
def named? (name : String) : Option (List Char) :=
  (namedCharacters.lookup name).map ofCodePoints

/-- The code points that pages number after an old code page, in the order of that code page from
0x80 on; zero marks a number the code page left free. -/
def codePage : List Nat :=
  [0x20ac, 0, 0x201a, 0x192, 0x201e, 0x2026, 0x2020, 0x2021, 0x2c6, 0x2030, 0x160, 0x2039, 0x152,
   0, 0x17d, 0, 0, 0x2018, 0x2019, 0x201c, 0x201d, 0x2022, 0x2013, 0x2014, 0x2dc, 0x2122, 0x161,
   0x203a, 0x153, 0, 0x17e, 0x178]

/-- The character with the number `n`: the numbers 0x80 to 0x9f mean the old code page wherever it
has a character for them. -/
def codePageChar (n : Nat) : Char :=
  if 0x80 ≤ n && n < 0xa0 then
    match codePage[n - 0x80]? with
    | some 0 => Char.ofNat n
    | some m => Char.ofNat m
    | none => Char.ofNat n
  else if 0xD800 ≤ n && n < 0xE000 || 0x110000 ≤ n then '\uFFFD'
  else Char.ofNat n

/-- Numbers that no page may use; in an attribute they stand for nothing. -/
def isForbidden (n : Nat) : Bool :=
  (1 ≤ n && n ≤ 8) || n == 0xb || (0xe ≤ n && n ≤ 0x1f) || (0x7f ≤ n && n ≤ 0x9f) ||
    (0xfdd0 ≤ n && n ≤ 0xfdef) || n % 0x10000 == 0xfffe || n % 0x10000 == 0xffff

/-! ## In running text -/

/-- The text of a numbered reference. -/
def ofNumber (n : Nat) : List Char :=
  [codePageChar n]

/-- The text of a named reference; an unknown name stays, without its semicolon. -/
def ofName (name : String) : List Char :=
  match named? name with
  | some cs => cs
  | none => '&' :: name.toList

/-! ## In an attribute -/

/-- The text of a number in an attribute. -/
def attributeNumber (n : Nat) : List Char :=
  if n == 0 then ['\uFFFD']
  else if 0x80 ≤ n && n < 0xa0 then [codePageChar n]
  else if 0xD800 ≤ n && n < 0xE000 || 0x110000 ≤ n then ['\uFFFD']
  else if isForbidden n then []
  else [Char.ofNat n]

/-- The longest prefix of `name`, of at least two and at most `n` characters, that is understood
without a semicolon; the rest of the name follows it unchanged. -/
def longestBare (name : List Char) : Nat → Option (List Char)
  | 0 | 1 => none
  | n + 2 =>
    let p := String.ofList (name.take (n + 2))
    if bareNames.contains p then
      (named? p).map (· ++ name.drop (n + 2))
    else longestBare name (n + 1)

/-- The text of a name in an attribute; `closed` says whether a semicolon ends it. -/
def attributeName (name : List Char) (closed : Bool) : List Char :=
  let written := if closed then name ++ [';'] else name
  let whole := String.ofList name
  match (if closed || bareNames.contains whole then named? whole else none) with
  | some cs => cs
  | none =>
    let limit := if closed then name.length else name.length - 1
    match longestBare name limit with
    | some cs => if closed then cs ++ [';'] else cs
    | none => '&' :: written

/-- Characters that may belong to a name in an attribute. -/
def isNameChar (c : Char) : Bool :=
  !(c == '\t' || c == '\n' || c == '\x0c' || c == ' ' || c == '<' || c == '&' || c == '#' ||
    c == ';')

/-- A semicolon in front is dropped. -/
def dropSemicolon : List Char → List Char
  | ';' :: r => r
  | r => r

/-- The reference that begins after an ampersand, and what follows it. -/
def attributeReference? (cs : List Char) : Option (List Char × List Char) :=
  let numbered (ds rest : List Char) (n : Nat) : Option (List Char × List Char) :=
    if ds.isEmpty then none else some (attributeNumber n, dropSemicolon rest)
  match cs with
  | '#' :: 'x' :: r | '#' :: 'X' :: r =>
    let ds := r.takeWhile Text.isHexDigit
    numbered ds (r.dropWhile Text.isHexDigit) (Text.number 16 ds)
  | '#' :: r =>
    let ds := r.takeWhile Char.isDigit
    numbered ds (r.dropWhile Char.isDigit) (Text.number 10 ds)
  | cs =>
    let name := (cs.take 32).takeWhile isNameChar
    if name.isEmpty then none
    else
      match cs.drop name.length with
      | ';' :: r => some (attributeName name true, r)
      | r => some (attributeName name false, r)

/-- Resolves references, at most `n` characters deep. -/
def decodeFrom : Nat → List Char → List Char
  | 0, cs => cs
  | _, [] => []
  | n + 1, '&' :: r =>
    match attributeReference? r with
    | some (cs, r') => cs ++ decodeFrom n r'
    | none => '&' :: decodeFrom n r
  | n + 1, c :: r => c :: decodeFrom n r

/-- The text that an attribute's value spells. -/
def decode (cs : List Char) : List Char :=
  decodeFrom cs.length cs

/-! ## Writing -/

/-- One character of text as markup. -/
def encodeChar (c : Char) : List Char :=
  if c = '&' then "&amp;".toList
  else if c = '<' then "&lt;".toList
  else if c = '>' then "&gt;".toList
  else [c]

/-- A text as markup: ampersands and angle brackets are written as references. -/
def encode (cs : List Char) : List Char :=
  cs.flatMap encodeChar

end StickerPages.Markup
