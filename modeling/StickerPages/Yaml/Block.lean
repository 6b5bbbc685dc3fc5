import StickerPages.Yaml.Cursor

/-!
# Texts in blocks

A block text is a run of lines behind `|` or `>`, each indented by the same number of columns; what
stands further right belongs to the text. Behind `|` line ends stay. Behind `>` two lines are folded
into one unless one of them begins with a blank. A header may settle the indentation, and what becomes
of the line ends behind the last line: `+` keeps all of them, `-` none, otherwise one stays.
-/

namespace StickerPages.Yaml

/-- What becomes of the line ends behind the last line. -/
inductive Chomp where
  | one
  | all
  | none
deriving DecidableEq, Repr

/-- The sign of a header about line ends. -/
def chompSign? (c : Char) : Option Chomp :=
  if c == '+' then some .all else if c == '-' then some .none else none

/-- The digit of a header, if one stands here; zero is refused. -/
def headerDigit (c : Cursor) : Except Fault (Option Nat × Cursor) :=
  if c.next.isDigit then
    if c.next == '0' then .error .malformed else .ok (some (c.next.toNat - 48), c.step)
  else .ok (none, c)

/-- A header's sign and digit, in either order. -/
def header (c : Cursor) : Except Fault (Chomp × Option Nat × Cursor) := do
  match chompSign? c.next with
  | some chomp =>
    let (n, c) ← headerDigit c.step
    return (chomp, n, c)
  | none =>
    let (n, c) ← headerDigit c
    match n, chompSign? c.next with
    | some n, some chomp => return (chomp, some n, c.step)
    | n, _ => return (.one, n, c)

/-- The place behind a header's line, which may hold a comment. -/
def passHeaderLine (c : Cursor) : Except Fault Cursor :=
  if !endsItem c.next then .error .malformed
  else
    let c := c.passSpaces
    let c := if c.next == '#' then c.passLine else c
    if endsLine c.next then .ok c.passLineEnd else .error .malformed

/-- The empty lines at the start, and the rightmost column that a space in them reaches. The fuel
bounds the characters. -/
def measureLines : Nat → Nat → Cursor → List Char × Nat × Cursor
  | 0, widest, c => ([], widest, c)
  | fuel + 1, widest, c =>
    if c.next == ' ' then measureLines fuel (max widest c.step.column) c.step
    else
      match c.lineEnd? with
      | none => ([], widest, c)
      | some (x, c) =>
        let (more, widest, c) := measureLines fuel widest c
        (x :: more, widest, c)

/-- The place behind spaces, no further than a column. The fuel bounds the spaces. -/
def passIndent (indent : Nat) : Nat → Cursor → Cursor
  | 0, c => c
  | fuel + 1, c =>
    if c.column < indent && c.next == ' ' then passIndent indent fuel c.step else c

/-- The empty lines here, and the place where the next line's text begins. The fuel bounds the
lines. -/
def blockGap (indent : Nat) : Nat → Cursor → List Char × Cursor
  | 0, c => ([], c)
  | fuel + 1, c =>
    let c := passIndent indent indent c
    match c.lineEnd? with
    | none => ([], c)
    | some (x, c) =>
      let (more, c) := blockGap indent fuel c
      (x :: more, c)

/-- A character that keeps two lines apart. -/
def isBlank (c : Char) : Bool := c == ' ' || c == '\t'

/-- The lines of a block text: the text without the line ends behind the last line, those line ends
(the first one apart), and the place behind them. The fuel bounds the lines. -/
def blockLines (folded : Bool) (indent : Nat) :
    Nat → List Char → Cursor → List Char × List Char × List Char × Cursor
  | 0, gap, c => ([], [], gap, c)
  | fuel + 1, gap, c =>
    if c.column == indent && c.next != '\x00' then
      let full := !isBlank c.next
      let (text, c) := c.run fun x => !endsLine x
      let (first, c) := match c.lineEnd? with
        | some (x, c) => ([x], c)
        | none => ([], c)
      let (more, c) := blockGap indent (c.rest.length + 1) c
      if c.column == indent && c.next != '\x00' then
        let join := if folded && first == ['\n'] && full && !isBlank c.next then
            (if more.isEmpty then [' '] else [])
          else first
        let (tail, last, ends, c) := blockLines folded indent fuel more c
        (gap ++ text ++ join ++ tail, last, ends, c)
      else (gap ++ text, first, more, c)
    else ([], [], gap, c)

/-- The block text that begins here. Its lines stand right of the margin. -/
def block (margin : Nat) (c : Cursor) : Except Fault (String × Cursor) := do
  let folded := c.next == '>'
  let (chomp, increment, c) ← header c.step
  let c ← passHeaderLine c
  let least := max margin 1
  let (indent, gap, c) := match increment with
    | some n =>
      let indent := least + n - 1
      let (gap, c) := blockGap indent (c.rest.length + 1) c
      (indent, gap, c)
    | none =>
      let (gap, widest, c) := measureLines (c.rest.length + 1) 0 c
      (max least widest, gap, c)
  let (text, last, ends, c) := blockLines folded indent (c.rest.length + 1) gap c
  let tail := match chomp with
    | .one => last
    | .all => last ++ ends
    | .none => []
  return (String.ofList (text ++ tail), c)

end StickerPages.Yaml
