import StickerPages.Markup.Selector.Lexeme
import StickerPages.Markup.Selector.Named

/-!
# Reading selectors

A selector text is a list of chains separated by commas, and a chain is a list of compounds joined by
combinators. `Selector.read` reads it, or says why it cannot: a combinator without a compound on both
sides, a type name that does not come first, an unknown name behind a colon and an unclosed bracket are
all refused.

Reading goes compound by compound. A `Draft` holds the list that is being read: the chains that are
finished, the compounds of the present one, and the conditions of the present compound.
-/

namespace StickerPages.Markup.Selector

/-! ## Attributes -/

/-- The comparison sign in front, and whether it says that the comparison fails. -/
def comparison? : List Char → Option (Comparison × Bool × List Char)
  | '=' :: r => some (.equals, false, r)
  | '!' :: '=' :: r => some (.equals, true, r)
  | '~' :: '=' :: r => some (.word, false, r)
  | '|' :: '=' :: r => some (.dash, false, r)
  | '^' :: '=' :: r => some (.starts, false, r)
  | '$' :: '=' :: r => some (.ends, false, r)
  | '*' :: '=' :: r => some (.contains, false, r)
  | _ => none

/-- What a name stands in, a name or a star or nothing in front of a bar, and what follows the bar. -/
def space? (cs : List Char) : Option (List Char × List Char) :=
  let behindBar (space rest : List Char) : Option (List Char × List Char) :=
    match rest with
    | '|' :: r => some (space, r)
    | _ => none
  match cs with
  | '*' :: r => behindBar ['*'] r
  | cs =>
    match name? cs with
    | some (n, r) => behindBar n r
    | none => behindBar [] cs

/-- The letter that says how letter case is taken: whether it does not matter, and what follows. -/
def caseLetter? : List Char → Option (Bool × List Char)
  | c :: r =>
    let f := Text.folded c
    if f == 'i' || f == 's' then some (c.toLower == 'i', r) else none
  | [] => none

/-- The closing bracket, after a gap. -/
def closed? (bracket : Char) (cs : List Char) : Option (List Char) :=
  match afterGap cs with
  | c :: r => if c == bracket then some r else none
  | [] => none

/-- What a condition on an attribute compares with: the sign, the text as written, and what is said
about letter case. -/
structure Compared where
  how : Comparison
  fails : Bool
  value : List Char
  foldCase : Option Bool

/-- The rest of a condition on an attribute after its name. -/
def compared? (cs : List Char) : Option (Option Compared × List Char) :=
  match closed? ']' cs with
  | some r => some (none, r)
  | none => do
    let (how, fails, r) ← comparison? (afterGap cs)
    let (value, r) ← value? (afterGap r)
    match closed? ']' r with
    | some r => return (some ⟨how, fails, value, none⟩, r)
    | none =>
      let (fold, r) ← caseLetter? (afterGap r)
      return (some ⟨how, fails, value, some fold⟩, ← closed? ']' r)

/-- An attribute's name as written, what it is compared with, and what follows the closing bracket. -/
def attributeTest? (cs : List Char) : Option (List Char × List Char × Option Compared × List Char) :=
  let plainly (space rest : List Char) : Option (List Char × List Char × Option Compared × List Char) := do
    let (name, r) ← name? rest
    let (compared, r) ← compared? r
    return (space, name, compared, r)
  let cs := afterGap cs
  ((space? cs).bind fun (space, r) => plainly space r).or (plainly [] cs)

/-- A condition on an attribute, after its opening bracket. Where names come from does not matter, but
has to be spelled rightly. -/
def attrCondition (cs : List Char) : Except Refusal (Condition × List Char) :=
  match attributeTest? cs with
  | none => .error .malformed
  | some (space, name, compared, r) => do
    let _ ← nameText space
    let name ← nameText name
    match compared with
    | none => return (.hasAttr name, r)
    | some c =>
      let byKind := Text.asciiSmall name.toList == "type".toList
      let test := .attr name c.how (← valueText c.value) (c.foldCase.getD byKind)
      return (if c.fails then .noneOf false [[test]] else test, r)

/-! ## Positions, texts and languages -/

/-- Decimal digits in front. -/
def digits (cs : List Char) : List Char × List Char :=
  (cs.takeWhile Char.isDigit, cs.dropWhile Char.isDigit)

/-- A word in front, letter case ignored. -/
def word? (word : String) (cs : List Char) : Option (List Char) :=
  let n := word.length
  if Text.asciiSmall (cs.take n) == word.toList then some (cs.drop n) else none

/-- The sign of a number in front. -/
def sign : List Char → Int × List Char
  | '-' :: r => (-1, r)
  | '+' :: r => (1, r)
  | r => (1, r)

/-- What is added to the steps of a formula: a sign and a number with gaps around the sign. -/
def addition? (cs : List Char) : Option (Int × List Char) :=
  match afterGap cs with
  | c :: r =>
    let (ds, r) := digits (afterGap r)
    if ds.isEmpty then none
    else if c == '+' then some (Text.number 10 ds, r)
    else if c == '-' then some (-(Text.number 10 ds : Int), r)
    else none
  | [] => none

/-- A formula: `even`, `odd`, a number, or `an+b`. -/
def formula? (cs : List Char) : Option (Formula × List Char) :=
  match word? "even" cs with
  | some r => some (.every 2 0, r)
  | none =>
    match word? "odd" cs with
    | some r => some (.every 2 1, r)
    | none =>
      let (sign, r) := sign cs
      let (ds, r) := digits r
      let n : Int := Text.number 10 ds
      match word? "n" r with
      | some r =>
        let step := sign * (if ds.isEmpty then 1 else n)
        match addition? r with
        | some (offset, r) => some (.every step offset, r)
        | none => some (.every step 0, r)
      | none => if ds.isEmpty then none else some (.once (sign * n), r)

/-- The word that restricts what a position counts, with spaces on both sides. -/
def restriction? (cs : List Char) : Option (List Char) := do
  let (spaced, r) := gap cs
  let (spacedBehind, rest) := gap (← word? "of" r)
  if spaced && spacedBehind then some rest else none

/-- The length of a list of texts separated by commas, and what follows its closing bracket. -/
def valuesLength? : Nat → List Char → Option (Nat × List Char)
  | 0, _ => none
  | fuel + 1, cs => do
    let n ← valueLength? cs
    let r := cs.drop n
    match closed? ')' r with
    | some rest => return (n, rest)
    | none =>
      match afterGap r with
      | ',' :: r' =>
        let next := afterGap r'
        let (m, rest) ← valuesLength? fuel next
        return (cs.length - next.length + m, rest)
      | _ => none

/-- A list of texts as it is written, and what follows its closing bracket. -/
def values? (cs : List Char) : Option (List Char × List Char) :=
  (valuesLength? (cs.length + 1) cs).map fun (n, r) => (cs.take n, r)

/-- The two directions by name, and what follows the closing bracket. -/
def direction? (cs : List Char) : Option (Text.Direction × List Char) :=
  match word? "ltr" cs, word? "rtl" cs with
  | some r, _ => (closed? ')' r).map (.fromLeft, ·)
  | none, some r => (closed? ')' r).map (.fromRight, ·)
  | none, none => none

/-- Names of conditions that count positions: from the back, and among elements of one name. -/
def counting? : String → Option (Bool × Bool)
  | "nth-child" => some (false, false)
  | "nth-last-child" => some (true, false)
  | "nth-of-type" => some (false, true)
  | "nth-last-of-type" => some (true, true)
  | _ => none

/-- Names of conditions that look for a text: in all that an element holds, or text by text. -/
def searching? : String → Option Bool
  | "contains" | "-soup-contains" => some true
  | "-soup-contains-own" => some false
  | _ => none

/-! ## Lists of chains -/

/-- Where a list of chains stands. -/
inductive Enclosure where
  /-- It is the whole text. -/
  | top
  /-- It stands inside brackets. -/
  | brackets
  /-- It stands inside brackets, and an empty chain in it selects nothing instead of being refused. -/
  | lenient
  /-- It stands inside brackets, and its chains lead away from an element. -/
  | relative
deriving DecidableEq, Repr

/-- A list of chains under construction. -/
structure Draft where
  confined : Bool := false
  /-- The chains that are finished, the last first. -/
  done : List (List Condition) := []
  /-- The compounds of the present chain with the combinators in front of them, the last first. -/
  steps : List (Combinator × List Condition) := []
  /-- The combinator in front of the present compound. -/
  joint : Combinator := .descendant
  /-- The conditions of the present compound. -/
  conditions : List Condition := []

/-- Texts are looked for in what the first condition on texts speaks of. -/
def agreed (cs : List Condition) : List Condition :=
  let first := cs.findSome? fun c => match c with
    | .holdsText whole _ _ => some whole
    | _ => none
  cs.map fun c => match c, first with
    | .holdsText _ inside texts, some whole => .holdsText whole inside texts
    | c, _ => c

/-- A compound as it is asked about. -/
def compound (cs : List Condition) : List Condition :=
  Condition.ordered (agreed cs)

/-- A chain seen from its last compound. -/
def chain : List (Combinator × List Condition) → List Condition
  | [] => []
  | [(_, cs)] => compound cs
  | (joint, cs) :: before => compound (cs ++ [.reached joint (chain before)])

/-- A chain that leads away from an element, seen from there. -/
def relativeChain (steps : List (Combinator × List Condition)) : List Condition :=
  steps.foldl (fun rest (joint, cs) => [.reaches joint (compound (cs ++ rest))]) []

namespace Draft

/-- Adds a condition to the present compound. -/
def add (d : Draft) (cs : List Condition) : Draft :=
  { d with conditions := d.conditions ++ cs }

/-- The present chain is finished. -/
def close (d : Draft) (cs : List Condition) : Draft :=
  { confined := d.confined, done := cs :: d.done }

/-- Finishes the present chain with its last compound. An empty one is refused, or meets nothing. -/
def finish (d : Draft) (enclosure : Enclosure) : Except Refusal Draft :=
  if d.conditions.isEmpty then
    if enclosure = .lenient then .ok (d.close [.never]) else .error .malformed
  else
    let steps := (d.joint, d.conditions) :: d.steps
    .ok (d.close (if enclosure = .relative then relativeChain steps else chain steps))

/-- Finishes the list. A chain that breaks off after a combinator is let pass as the only one. -/
def finishAll (d : Draft) (enclosure : Enclosure) : Except Refusal Draft :=
  if d.conditions.isEmpty && !d.steps.isEmpty && !d.done.isEmpty then .error .malformed
  else d.finish enclosure

/-- Goes on behind a combinator. Where nothing stands in front of it, only the combinator that a
relative chain begins with is possible. -/
def join (d : Draft) (enclosure : Enclosure) (joint : Combinator) : Except Refusal Draft :=
  if d.conditions.isEmpty then
    if enclosure = .relative && d.joint = .descendant then .ok { d with joint } else .error .malformed
  else .ok { d with steps := (d.joint, d.conditions) :: d.steps, joint, conditions := [] }

end Draft

/-- A combinator with the gaps around it, or a comma. -/
def combinator? (cs : List Char) : Option (Option Combinator × List Char) :=
  match gap cs with
  | (_, ',' :: r) => some (none, afterGap r)
  | (_, '>' :: r) => some (some .child, afterGap r)
  | (_, '+' :: r) => some (some .adjacent, afterGap r)
  | (_, '~' :: r) => some (some .sibling, afterGap r)
  | (spaced, r) => if spaced then some (some .descendant, r) else none

/-- A type name or a star, perhaps with what it stands in. -/
def typeName (cs : List Char) : Option (Option (List Char) × List Char × List Char) :=
  let plainly (cs : List Char) : Option (List Char × List Char) :=
    match cs with
    | '*' :: r => some (['*'], r)
    | cs => name? cs
  ((space? cs).bind fun (space, r) => (plainly r).map fun (n, r) => (some space, n, r)).or
    ((plainly cs).map fun (n, r) => (none, n, r))

mutual
/-- Reads chains from here on, up to the end of the text or, inside brackets, up to the closing one.
`tail` is the length of the gap that ends the text. -/
def chains (tail : Nat) : Nat → Enclosure → Draft → List Char → Except Refusal (Draft × List Char)
  | 0, _, _, _ => .error .malformed
  | fuel + 1, enclosure, draft, cs =>
    let goOn (cs : List Condition) (r : List Char) : Except Refusal (Draft × List Char) :=
      chains tail fuel enclosure (draft.add cs) r
    let named (make : String → Condition) (cs : List Char) : Except Refusal (Draft × List Char) :=
      match name? cs with
      | none => .error .malformed
      | some (n, r) => do goOn [make (← nameText n)] r
    -- the gap that ends the text joins nothing to anything
    if cs.length ≤ tail then
      if enclosure = .top then (draft.finishAll enclosure).map (·, cs) else .error .malformed
    else
      match closed? ')' cs with
      | some r => if enclosure = .top then .error .malformed else (draft.finishAll enclosure).map (·, r)
      | none =>
        match cs with
        | '.' :: r => named .classed r
        | '#' :: r => named .identified r
        | '&' :: r => goOn [.scope] r
        | '[' :: r => do
          let (c, r) ← attrCondition r
          goOn [c] r
        | ':' :: r => do
          let (confines, cs, r) ← behindColon tail fuel r
          chains tail fuel enclosure { draft.add cs with confined := draft.confined || confines } r
        | '@' :: r => .error (if ((word? "p" r).bind name?).isSome then .unsupported else .malformed)
        | cs =>
          match typeName cs with
          | some (space, n, r) => do
            -- a type name comes first in its compound
            if !draft.conditions.isEmpty then throw .malformed
            goOn [.named (← space.mapM nameText) (← nameText n)] r
          | none =>
            match combinator? cs with
            | none => .error .malformed
            | some (some joint, r) => do chains tail fuel enclosure (← draft.join enclosure joint) r
            | some (none, r) => do chains tail fuel enclosure (← draft.finish enclosure) r

/-- Reads what follows a colon: whether it confines the list it stands in, and its conditions. -/
def behindColon (tail : Nat) : Nat → List Char → Except Refusal (Bool × List Condition × List Char)
  | 0, _ => .error .malformed
  | fuel + 1, cs =>
    match name? cs with
    | none =>
      match cs with
      | ':' :: r => .error (if (name? r).isSome then .unsupported else .malformed)
      | _ => .error .malformed
    | some (n, r) => do
      let name := String.ofList (Text.asciiSmall (← decode false n))
      match r with
      | '(' :: r => inBrackets tail fuel name (afterGap r)
      | r =>
        match Condition.named? name with
        | some cs => return (name == "defined", cs, r)
        | none => throw .malformed

/-- Reads what follows the opening bracket behind a name. -/
def inBrackets (tail : Nat) :
    Nat → String → List Char → Except Refusal (Bool × List Condition × List Char)
  | 0, _, _ => .error .malformed
  | fuel + 1, name, cs =>
    let list (enclosure : Enclosure) (make : Bool → List (List Condition) → Condition)
        (cs : List Char) : Except Refusal (Bool × List Condition × List Char) := do
      let (draft, r) ← chains tail fuel enclosure {} cs
      return (false, [make draft.confined draft.done.reverse], r)
    match counting? name with
    | some (fromBack, sameName) =>
      match formula? cs with
      | none => .error .malformed
      | some (formula, r) =>
        match closed? ')' r with
        | some r => .ok (false, [.position ⟨fromBack, sameName, formula⟩ false [[]]], r)
        | none =>
          match if sameName then none else restriction? r with
          | some r => list .brackets (.position ⟨fromBack, false, formula⟩) r
          | none => .error .malformed
    | none =>
      match name with
      | "lang" =>
        match values? cs with
        | some (vs, r) => do
          return (false, [.speaks (← (valuesIn vs).mapM valueText)], r)
        | none => .error .malformed
      | "dir" =>
        match direction? cs with
        | some (d, r) => .ok (true, [.runs d], r)
        | none => .error .malformed
      | "not" => list .brackets .noneOf cs
      | "is" | "where" => list .lenient .oneOf cs
      | "matches" => list .brackets .oneOf cs
      | "has" => list .relative .oneOf cs
      | "current" | "host" | "host-context" => list .brackets (fun _ _ => .never) cs
      | name =>
        match searching? name with
        | none => .error .malformed
        | some whole =>
          match values? cs with
          | some (vs, r) => do
            let texts ← (valuesIn (← decode false vs)).mapM valueText
            return (false, [.holdsText whole whole texts], r)
          -- what is no list of texts may still be a list of chains
          | none => list .brackets .oneOf cs
end

/-- The length of the longest gap that ends a text. -/
def tailLength : List Char → Nat
  | [] => 0
  | c :: r => if (afterGap (c :: r)).isEmpty then r.length + 1 else tailLength r

/-- Reads a selector. -/
def read (s : String) : Except Refusal Selector := do
  let cs := s.toList.map fun c => if c == '\x00' then '\uFFFD' else c
  -- each piece takes a character at least and three steps at most
  let (draft, _) ← chains (tailLength cs) (3 * cs.length + 3) .top {} (afterGap cs)
  return ⟨draft.confined, draft.done.reverse⟩

end StickerPages.Markup.Selector
