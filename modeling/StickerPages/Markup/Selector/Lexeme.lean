import StickerPages.Markup.Selector
import StickerPages.Text.Digits

/-!
# Names, texts and gaps in selectors

The smallest pieces of a selector's text: names, quoted texts, and the gaps of spaces and comments
between other pieces. A piece is first measured and cut off as it is written, and decoded afterwards; a
backslash hides the character behind it, or spells a character by its number.
-/

namespace StickerPages.Markup.Selector

/-! ## Characters -/

/-- Characters that may begin a name. -/
def opensName (c : Char) : Bool :=
  c.isAlpha || c == '_' || 0xa0 ≤ c.toNat

/-- Characters that may go on with a name. -/
def inName (c : Char) : Bool :=
  opensName c || c.isDigit || c == '-'

/-- Spaces that end a line or a page. -/
def endsLine (c : Char) : Bool :=
  c == '\n' || c == '\r' || c == '\x0c'

/-- The length of one space character in front, a line end of two characters counting as one. -/
def spaceLength : List Char → Nat
  | '\r' :: '\n' :: _ => 2
  | c :: _ => if isSpace c then 1 else 0
  | [] => 0

/-- The digits of a character's number, six at most. -/
def spellingDigits (cs : List Char) : List Char :=
  (cs.take 6).takeWhile Text.isHexDigit

/-- How much a backslash in front hides: a number and the space that ends it, or one character. A
backslash at the end hides nothing, and one at the end of a line is none. -/
def hiddenLength? (cs : List Char) : Option Nat :=
  let ds := spellingDigits cs
  if !ds.isEmpty then some (ds.length + spaceLength (cs.drop ds.length))
  else if atEnd cs then some 0
  else if cs.head?.any endsLine then none
  else some 1

/-! ## Measuring -/

/-- The length of what goes on with a name. -/
def nameTailLength : List Char → Nat
  | [] => 0
  | c :: r =>
    if inName c then 1 + nameTailLength r
    else if c == '\\' then
      match hiddenLength? r with
      | some k => 1 + k + nameTailLength (r.drop k)
      | none => 0
    else 0
termination_by cs => cs.length
decreasing_by all_goals simp; try omega

/-- A name may begin here, dashes apart. -/
def nameOpens : List Char → Bool
  | '\\' :: r => (hiddenLength? r).isSome
  | c :: _ => opensName c
  | [] => false

/-- The length of a name: two dashes, or a letter perhaps after a dash, and what goes on with it. -/
def nameLength? : List Char → Option Nat
  | '-' :: '-' :: r => some (2 + nameTailLength r)
  | '-' :: r => if nameOpens r then some (1 + nameTailLength r) else none
  | cs => if nameOpens cs then some (nameTailLength cs) else none

/-- The length of a quoted text up to its closing mark, the mark left out. -/
def quotedLength? (mark : Char) : List Char → Option Nat
  | [] => none
  | c :: r =>
    if c == '\\' then
      let k := max 1 (if r.head? == some '\r' then spaceLength r else 1)
      if r.isEmpty then none else (quotedLength? mark (r.drop k)).map (1 + k + ·)
    else if c == mark then some 0
    else if endsLine c then none
    else (quotedLength? mark r).map (1 + ·)
termination_by cs => cs.length
decreasing_by all_goals simp; try omega

/-- A mark around a text. -/
def isMark (c : Char) : Bool :=
  c == '"' || c == '\''

/-- The length of a quoted text with its marks, or of a name. -/
def valueLength? : List Char → Option Nat
  | c :: r => if isMark c then (quotedLength? c r).map (2 + ·) else nameLength? (c :: r)
  | [] => none

/-- The length of a comment behind its opening, its end included. -/
def commentLength? : List Char → Option Nat
  | '*' :: '/' :: _ => some 2
  | _ :: r => (commentLength? r).map (1 + ·)
  | [] => none

/-! ## Cutting -/

/-- Cuts off a piece whose length has been measured. -/
def cut? (length? : List Char → Option Nat) (cs : List Char) : Option (List Char × List Char) :=
  (length? cs).map fun n => (cs.take n, cs.drop n)

/-- A name as it is written, and what follows. -/
def name? : List Char → Option (List Char × List Char) := cut? nameLength?

/-- A text to compare with as it is written, and what follows. -/
def value? : List Char → Option (List Char × List Char) := cut? valueLength?

/-- Drops spaces and comments; says whether there were spaces among them. -/
def gap : List Char → Bool × List Char
  | [] => (false, [])
  | c :: r =>
    if isSpace c then (true, (gap r).2)
    else if c == '/' && r.head? == some '*' then
      match commentLength? (r.drop 1) with
      | some k => gap ((r.drop 1).drop k)
      | none => (false, c :: r)
    else (false, c :: r)
termination_by cs => cs.length
decreasing_by all_goals simp; try omega

/-- Drops spaces and comments. -/
def afterGap (cs : List Char) : List Char := (gap cs).2

/-- A gap is never longer than what it stands in. -/
theorem afterGap_length_le (cs : List Char) : (afterGap cs).length ≤ cs.length := by
  unfold afterGap
  fun_induction gap cs <;> simp_all <;> omega

/-- The texts that stand in a list; what stands between them is passed over. -/
def valuesIn : List Char → List (List Char)
  | [] => []
  | c :: r =>
    match valueLength? (c :: r) with
    | some n => (c :: r).take n :: valuesIn (r.drop (n - 1))
    | none =>
      let rest := afterGap (c :: r)
      if rest.head? == some ',' then valuesIn (afterGap (rest.drop 1)) else valuesIn r
termination_by cs => cs.length
decreasing_by
  · simp only [List.length_cons, List.length_drop]
    omega
  · have h1 := afterGap_length_le (c :: r)
    have h2 := afterGap_length_le ((afterGap (c :: r)).drop 1)
    simp only [List.length_cons, List.length_drop] at *
    omega
  · simp

/-! ## Decoding -/

/-- The character with this number. Numbers that stand for half a character only give one that no page
has. -/
def character? (n : Nat) : Except Refusal Char :=
  if n == 0 then .ok '\uFFFD'
  else if 0x10FFFF < n then .error .noCharacter
  else .ok (Char.ofNat n)

/-- What a piece of a selector says. In quoted text a backslash at the end of a line joins the lines. -/
def decode (quoted : Bool) : List Char → Except Refusal (List Char)
  | [] => .ok []
  | c :: r =>
    if c != '\\' then (decode quoted r).map (c :: ·)
    else
      let ds := spellingDigits r
      if !ds.isEmpty then do
        let d ← character? (Text.number 16 ds)
        return d :: (← decode quoted (r.drop (ds.length + spaceLength (r.drop ds.length))))
      else if atEnd r then (decode quoted r).map ('\uFFFD' :: ·)
      else if r.head?.any endsLine then
        if quoted then decode quoted (r.drop (spaceLength r)) else (decode quoted r).map (c :: ·)
      else (decode quoted (r.drop 1)).map (r.take 1 ++ ·)
termination_by cs => cs.length
decreasing_by all_goals simp; try omega

/-- What a name says. -/
def nameText (cs : List Char) : Except Refusal String :=
  (decode false cs).map String.ofList

/-- What a text to compare with says, its marks apart. -/
def valueText (cs : List Char) : Except Refusal String :=
  match cs with
  | c :: r => if isMark c then (decode true r.dropLast).map String.ofList else nameText cs
  | [] => .ok ""

end StickerPages.Markup.Selector
