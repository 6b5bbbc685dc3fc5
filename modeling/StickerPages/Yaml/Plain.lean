import StickerPages.Yaml.Cursor

/-!
# Texts without marks

A plain text ends where something else could begin: before a comment, before a colon that ends a
word, inside brackets before a sign of the bracketed form, and on a line that stands too far left. A
tab ends it too.
-/

namespace StickerPages.Yaml

/-- A sign of the form in brackets that ends a plain text. -/
def isFlowSign (c : Char) : Bool :=
  c == ',' || c == '?' || c == '[' || c == ']' || c == '\x7b' || c == '\x7d'

/-- A colon that is followed by this ends a plain text. -/
def endsKey (inFlow : Bool) (c : Char) : Bool :=
  endsWord c || (inFlow && (c == ',' || c == '[' || c == ']' || c == '\x7b' || c == '\x7d'))

/-- The characters of a plain text up to the next blank or end. -/
def plainWord (inFlow : Bool) : List Char → List Char
  | [] => []
  | c :: r =>
    if endsWord c || (c == ':' && endsKey inFlow (r.headD '\x00')) || (inFlow && isFlowSign c) then []
    else c :: plainWord inFlow r

/-- Empty lines and spaces in front of a line; nothing if a mark between documents comes up. The fuel
bounds the characters. -/
def plainLines? : Nat → Cursor → Option (List Char) × Cursor
  | 0, c => (none, c)
  | fuel + 1, c =>
    if c.next == ' ' then plainLines? fuel c.step
    else
      match c.lineEnd? with
      | none => (some [], c)
      | some (x, c) =>
        if c.atDocumentMark then (none, c)
        else
          let (more, c) := plainLines? fuel c
          (more.map (x :: ·), c)

/-- What stands between two words of a plain text: nothing, if it ends here. The flag says that a
line ended. -/
def plainGap (c : Cursor) : List Char × Bool × Cursor :=
  let (blanks, c) := c.run (· == ' ')
  match c.lineEnd? with
  | none => (blanks, false, c)
  | some (first, c) =>
    if c.atDocumentMark then ([], true, c)
    else
      match plainLines? (c.rest.length + 1) c with
      | (none, c) => ([], true, c)
      | (some more, c) => (foldLines first more, true, c)

/-- The rest of a plain text, the place behind it, and whether a line ended behind its last word.
`gap` stands in front of the next word. The fuel bounds the words. -/
def plainRest (inFlow : Bool) (margin : Nat) :
    Nat → List Char → Bool → List Char → Cursor → String × Bool × Cursor
  | 0, read, ended, _, c => (String.ofList read.reverse, ended, c)
  | fuel + 1, read, ended, gap, c =>
    if c.next == '#' then (String.ofList read.reverse, ended, c)
    else
      let word := plainWord inFlow c.rest
      if word.isEmpty then (String.ofList read.reverse, ended, c)
      else
        let read := word.reverse ++ gap.reverse ++ read
        let (gap, ended, c) := plainGap (Cursor.skip word.length c)
        if gap.isEmpty || c.next == '#' || (!inFlow && c.column < margin) then
          (String.ofList read.reverse, ended, c)
        else plainRest inFlow margin fuel read ended gap c

/-- The plain text that begins here. Lines that belong to it begin at the margin or right of it. -/
def plain (inFlow : Bool) (margin : Nat) (c : Cursor) : String × Bool × Cursor :=
  plainRest inFlow margin (c.rest.length + 1) [] false [] c

/-- A plain text can begin here. -/
def beginsPlain (inFlow : Bool) (c : Cursor) : Bool :=
  let x := c.next
  !(endsWord x || "-?:,[]\x7b\x7d#&*!|>'\"%@`".toList.contains x) ||
    (!endsWord (c.ahead 1) && (x == '-' || (!inFlow && (x == '?' || x == ':'))))

end StickerPages.Yaml
