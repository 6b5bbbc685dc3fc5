/-!
# A place in a text

YAML gives meaning to columns and to line ends, so its reader moves through a text with a cursor that
counts both. The end of a text looks like the character NUL, which no text may hold.

Five characters end a line; a carriage return and a line feed together end one line.
-/

namespace StickerPages.Yaml

/-- Why a text holds no data. -/
inductive Fault where
  /-- The text does not follow the grammar. -/
  | malformed
  /-- A number behind a backslash is no character. -/
  | noCharacter
  /-- What is marked as a number is none. -/
  | notNumber (text : String)
  /-- What is marked as a number is empty. -/
  | noDigits
  /-- What is marked as a truth value is none. -/
  | notTruth (text : String)
  /-- What is marked as a date is none. -/
  | notDate (text : String)
  /-- What looks like a date is not in the calendar. -/
  | noSuchDate (text : String)
  /-- Something is part of itself. -/
  | endless
deriving DecidableEq, Repr

/-- The fault in words. -/
def Fault.message : Fault → String
  | .malformed => "語法錯誤"
  | .noCharacter => "沒有這個字元"
  | .notNumber t => "不是數字: " ++ t
  | .noDigits => "缺少數字"
  | .notTruth t => "不是布林值: " ++ t
  | .notDate t => "不是日期: " ++ t
  | .noSuchDate t => "沒有這個日期: " ++ t
  | .endless => "資料包含自己"

/-- A place in a text: what is still to come, and where that begins. -/
structure Cursor where
  rest : List Char
  index : Nat := 0
  line : Nat := 0
  column : Nat := 0
deriving Repr

/-- A character that ends a line. -/
def isBreak (c : Char) : Bool :=
  c == '\n' || c == '\r' || c == '\u0085' || c == '\u2028' || c == '\u2029'

/-- A line or the text ends here. -/
def endsLine (c : Char) : Bool := c == '\x00' || isBreak c

/-- A blank stands here, or a line ends. -/
def endsWord (c : Char) : Bool := c == ' ' || c == '\t' || endsLine c

/-- A space stands here, or a line ends. -/
def endsItem (c : Char) : Bool := c == ' ' || endsLine c

/-- A character that a text may hold. -/
def isAllowed (c : Char) : Bool :=
  let n := c.toNat
  n == 0x9 || n == 0xa || n == 0xd || (0x20 ≤ n && n ≤ 0x7e) || n == 0x85 ||
    (0xa0 ≤ n && n ≤ 0xd7ff) || (0xe000 ≤ n && n ≤ 0xfffd) || 0x10000 ≤ n

namespace Cursor

/-- The character at a distance. -/
def ahead (c : Cursor) (n : Nat) : Char := (c.rest[n]?).getD '\x00'

/-- The next character. -/
def next (c : Cursor) : Char := c.rest.headD '\x00'

/-- One character further. The mark of byte order takes up no column. -/
def step (c : Cursor) : Cursor :=
  match c.rest with
  | [] => c
  | x :: r =>
    if isBreak x && !(x == '\r' && r.head? == some '\n') then
      { rest := r, index := c.index + 1, line := c.line + 1, column := 0 }
    else
      { rest := r, index := c.index + 1, line := c.line
        column := if x == '\ufeff' then c.column else c.column + 1 }

/-- Several characters further. -/
def skip : Nat → Cursor → Cursor
  | 0, c => c
  | n + 1, c => skip n c.step

/-- The characters from here on that pass a test, and the place behind them. -/
def run (c : Cursor) (p : Char → Bool) : List Char × Cursor :=
  let taken := c.rest.takeWhile p
  (taken, skip taken.length c)

/-- The place behind the characters that pass a test. -/
def pass (c : Cursor) (p : Char → Bool) : Cursor := (c.run p).2

/-- The place behind spaces. -/
def passSpaces (c : Cursor) : Cursor := c.pass (· == ' ')

/-- The place where the line ends. -/
def passLine (c : Cursor) : Cursor := c.pass fun x => !endsLine x

/-- The line end here, as it counts inside a text, and the place behind it. -/
def lineEnd? (c : Cursor) : Option (Char × Cursor) :=
  let x := c.next
  if x == '\u2028' || x == '\u2029' then some (x, c.step)
  else if x == '\r' && c.ahead 1 == '\n' then some ('\n', c.step.step)
  else if isBreak x then some ('\n', c.step)
  else none

/-- The place behind a line end, if there is one here. -/
def passLineEnd (c : Cursor) : Cursor :=
  match c.lineEnd? with
  | some (_, c) => c
  | none => c

/-- Three equal marks stand here, and nothing else in the word. -/
def atMark (c : Cursor) (mark : Char) : Bool :=
  c.next == mark && c.ahead 1 == mark && c.ahead 2 == mark && endsWord (c.ahead 3)

/-- A mark between documents stands here. -/
def atDocumentMark (c : Cursor) : Bool := c.atMark '-' || c.atMark '.'

end Cursor

/-- Between two lines of one text: a line feed alone becomes a space, one before empty lines is left
out, and any other line end stays. -/
def foldLines (first : Char) (more : List Char) : List Char :=
  if first != '\n' then first :: more
  else if more.isEmpty then [' ']
  else more

end StickerPages.Yaml
