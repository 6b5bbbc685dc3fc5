import StickerPages.Text.Digits
import StickerPages.Yaml.Cursor

/-!
# Texts between quote marks

Between single marks only the mark itself is special, written twice. Between double marks a backslash
begins an escape. In both, the blanks around a line end are left out and lines are folded; a mark
between documents may not stand at the start of a line.
-/

namespace StickerPages.Yaml

/-- The character behind a backslash, where it is a name. -/
def escape? (c : Char) : Option Char :=
  [('0', '\x00'), ('a', '\x07'), ('b', '\x08'), ('t', '\x09'), ('\t', '\x09'), ('n', '\x0a'),
   ('v', '\x0b'), ('f', '\x0c'), ('r', '\x0d'), ('e', '\x1b'), (' ', ' '), ('"', '"'),
   ('\\', '\\'), ('/', '/'), ('N', '\u0085'), ('_', '\u00a0'), ('L', '\u2028'),
   ('P', '\u2029')].lookup c

/-- How many hexadecimal digits follow this letter behind a backslash. -/
def codeLength? (c : Char) : Option Nat := [('x', 2), ('u', 4), ('U', 8)].lookup c

/-- The character with this number. Half of a pair stands for the replacement character. -/
def characterOf (n : Nat) : Except Fault Char :=
  if 0x10ffff < n then .error .noCharacter
  else if 0xd800 ≤ n && n < 0xe000 then .ok '\ufffd'
  else .ok (Char.ofNat n)

/-- Empty lines and the blanks in front of a line, inside quote marks. The fuel bounds the lines. -/
def emptyLines : Nat → Cursor → Except Fault (List Char × Cursor)
  | 0, _ => .error .malformed
  | fuel + 1, c =>
    if c.atDocumentMark then .error .malformed
    else
      let c := c.pass fun x => x == ' ' || x == '\t'
      match c.lineEnd? with
      | none => .ok ([], c)
      | some (x, c) => do
        let (more, c) ← emptyLines fuel c
        return (x :: more, c)

/-- The escape behind a backslash. -/
def escapeAt (fuel : Nat) (c : Cursor) : Except Fault (List Char × Cursor) :=
  match escape? c.next with
  | some x => .ok ([x], c.step)
  | none =>
    match codeLength? c.next with
    | some n =>
      let digits := (c.rest.drop 1).take n
      if digits.length < n then .error .malformed
      else
        match Text.number? 16 digits with
        | none => .error .malformed
        | some code => (characterOf code).map fun x => ([x], Cursor.skip (n + 1) c)
    | none =>
      match c.lineEnd? with
      | some (_, c) => emptyLines fuel c
      | none => .error .malformed

/-- The rest of a quoted text and the place behind its closing mark; `read` holds the characters so
far, last first. The fuel bounds the pieces. -/
def quotedRest (double : Bool) : Nat → List Char → Cursor → Except Fault (String × Cursor)
  | 0, _, _ => .error .malformed
  | fuel + 1, read, c =>
    let x := c.next
    if x == '\x00' then .error .malformed
    else if x == '\'' && !double then
      if c.ahead 1 == '\'' then quotedRest double fuel ('\'' :: read) c.step.step
      else .ok (String.ofList read.reverse, c.step)
    else if x == '"' && double then .ok (String.ofList read.reverse, c.step)
    else if x == '\\' && double then
      match escapeAt fuel c.step with
      | .error f => .error f
      | .ok (xs, c) => quotedRest double fuel (xs.reverse ++ read) c
    else if endsWord x then
      let (blanks, c) := c.run fun x => x == ' ' || x == '\t'
      match c.lineEnd? with
      | none => quotedRest double fuel (blanks.reverse ++ read) c
      | some (first, c) =>
        match emptyLines fuel c with
        | .error f => .error f
        | .ok (more, c) => quotedRest double fuel ((foldLines first more).reverse ++ read) c
    else quotedRest double fuel (x :: read) c.step

/-- The quoted text that begins here, and the place behind it. -/
def quoted (c : Cursor) : Except Fault (String × Cursor) :=
  quotedRest (c.next == '"') (c.rest.length + 1) [] c.step

end StickerPages.Yaml
