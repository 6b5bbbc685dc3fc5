import StickerPages.Text.Case.Data

/-!
# Letter case over all of Unicode

`small` and `capital` write a text in small or in capital letters by the full mappings of the
Unicode character database: one character may become several (`ß` becomes `SS`), and a capital
sigma becomes `ς` at the end of a word and `σ` elsewhere.

`folded` serves comparison: it sends a character to one that stands for it and for every other
character with the same capital, one for one, so that two texts are alike exactly when they are folded
to the same text.

Letters of the English alphabet are treated first; they never reach the tables.
-/

namespace StickerPages.Text

/-- Membership in a list of closed ranges. -/
def inRanges (ranges : List (Nat × Nat)) (n : Nat) : Bool :=
  ranges.any fun r => r.1 ≤ n && n ≤ r.2

/-- The distance from `n` to its partner in a table of runs, if the table covers `n`. -/
def shiftOf (shifts : List Shift) (n : Nat) : Option Int :=
  (shifts.find? fun s => s.first ≤ n && n ≤ s.last && (n - s.first) % s.step == 0).map (·.offset)

/-- One character by the two tables of one direction. -/
def mapCase (expansions : List (Nat × List Nat)) (shifts : List Shift) (c : Char) : List Char :=
  match expansions.lookup c.toNat with
  | some ns => ns.map Char.ofNat
  | none =>
    match shiftOf shifts c.toNat with
    | some d => [Char.ofNat (c.toNat + d).toNat]
    | none => [c]

/-- The small form of one character, wherever it stands. -/
def smallChar (c : Char) : List Char :=
  if c.toNat < 0x80 then [c.toLower] else mapCase smallExpansions smallShifts c

/-- The character that stands for all those that differ from `c` in letter case only. -/
def folded (c : Char) : Char :=
  let s := (smallChar c).headD c
  match smallVariants.lookup s.toNat with
  | some n => Char.ofNat n
  | none => s

/-- The capital form of one character. -/
def capitalChar (c : Char) : List Char :=
  if c.toNat < 0x80 then [c.toUpper] else mapCase capitalExpansions capitalShifts c

/-- The first character that is not passed over is a letter with case. -/
def meetsCased (cs : List Char) : Bool :=
  match cs.dropWhile fun c => inRanges caseIgnorable c.toNat with
  | [] => false
  | c :: _ => inRanges cased c.toNat

/-- Small letters, `before` being the characters already read, nearest first: a capital sigma that
ends a word of letters becomes `ς`. -/
def smallFrom (before : List Char) : List Char → List Char
  | [] => []
  | c :: r =>
    if c = 'Σ' then
      (if meetsCased before && !meetsCased r then 'ς' else 'σ') :: smallFrom (c :: before) r
    else smallChar c ++ smallFrom (c :: before) r

/-- The text in small letters. -/
def small (cs : List Char) : List Char :=
  smallFrom [] cs

/-- The text in capital letters. -/
def capital (cs : List Char) : List Char :=
  cs.flatMap capitalChar

/-- Small letters of the English alphabet only; every other character stays. -/
def asciiSmall (cs : List Char) : List Char :=
  cs.map Char.toLower

end StickerPages.Text

namespace String

/-- The text in small letters, by the full Unicode mapping. -/
def smallLetters (s : String) : String :=
  String.ofList (StickerPages.Text.small s.toList)

/-- The text in capital letters, by the full Unicode mapping. -/
def capitalLetters (s : String) : String :=
  String.ofList (StickerPages.Text.capital s.toList)

end String
