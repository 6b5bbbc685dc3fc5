import StickerPages.Yaml.Block
import StickerPages.Yaml.Plain
import StickerPages.Yaml.Token

/-!
# Cutting a text into tokens

Two things make YAML's tokens depend on more than the next characters.

* **Indentation.** A sequence or a mapping in block form begins where an item or a key stands right of
  the margin, and ends where something stands left of it. `margins` holds the margins of the open
  collections, each one more than the column where its items begin; nothing is indented inside
  brackets.
* **Keys that turn up late.** Whether a text is a key is only known when its colon is met. So the place
  of everything that could be a key is kept, one for each depth of brackets; a colon makes the kept
  place a key, and the key's token is put in there. A place is given up when its line ends, or after
  1024 characters. Giving up the place of something that can be nothing but a key is a fault.
-/

namespace StickerPages.Yaml

/-- A place where a key may have begun. -/
structure KeyPlace where
  /-- How deep in brackets it stands. -/
  depth : Nat
  /-- How many tokens stand before it. -/
  position : Nat
  /-- It can be nothing but a key. -/
  required : Bool
  index : Nat
  line : Nat
  column : Nat
deriving DecidableEq, Repr

/-- How far a text has been cut. -/
structure Lexer where
  place : Cursor
  tokens : Array Token := #[]
  /-- How many brackets are open. -/
  depth : Nat := 0
  /-- One more than the column of the innermost block collection; 0 outside of all. -/
  margin : Nat := 0
  /-- The margins of the collections around. -/
  margins : List Nat := []
  /-- A key may begin here. -/
  keyAllowed : Bool := true
  keys : List KeyPlace := []

namespace Lexer

/-- Adds a token. -/
def push (s : Lexer) (t : Token) : Lexer := { s with tokens := s.tokens.push t }

/-- Adds a token and goes on behind a number of characters. -/
def pushSign (s : Lexer) (length : Nat) (t : Token) : Lexer :=
  { s.push t with place := Cursor.skip length s.place }

/-- Brackets are open. -/
def inFlow (s : Lexer) : Bool := s.depth != 0

/-! ## Margins -/

/-- Closes the collections in `margins` that a column lies left of. -/
def closeTo (column : Nat) : Nat → List Nat → Array Token → Nat × List Nat × Array Token
  | margin, [], tokens => (margin, [], tokens)
  | margin, m :: ms, tokens =>
    if column < margin then closeTo column m ms (tokens.push .blockEnd)
    else (margin, m :: ms, tokens)

/-- Closes the block collections that a column lies left of; all of them at column 0. The column
counts from 1. -/
def unwind (s : Lexer) (column : Nat) : Lexer :=
  if s.inFlow then s
  else
    let (margin, margins, tokens) := closeTo column s.margin s.margins s.tokens
    { s with margin, margins, tokens }

/-- Opens a block collection at a column, unless one begins there; its token goes to a position. -/
def openAt (s : Lexer) (column position : Nat) (t : Token) : Lexer :=
  if s.margin < column + 1 then
    { s with
      margin := column + 1, margins := s.margin :: s.margins
      tokens := s.tokens.insertIdxIfInBounds position t }
  else s

/-! ## Places of keys -/

/-- Gives up the places that lie too far back. -/
def dropStale (s : Lexer) : Except Fault Lexer :=
  let stale (k : KeyPlace) : Bool := k.line != s.place.line || k.index + 1024 < s.place.index
  if s.keys.any fun k => stale k && k.required then .error .malformed
  else .ok { s with keys := s.keys.filter fun k => !stale k }

/-- Gives up the place at this depth. -/
def dropKey (s : Lexer) : Except Fault Lexer :=
  if s.keys.any fun k => k.depth == s.depth && k.required then .error .malformed
  else .ok { s with keys := s.keys.filter fun k => k.depth != s.depth }

/-- Keeps the place here, if a key may begin. -/
def keepKey (s : Lexer) : Except Fault Lexer :=
  if s.keyAllowed then do
    let s' ← s.dropKey
    return { s' with keys := s'.keys ++ [{
      depth := s.depth, position := s.tokens.size
      required := !s.inFlow && s.margin == s.place.column + 1
      index := s.place.index, line := s.place.line, column := s.place.column }] }
  else .ok s

/-! ## Tokens -/

/-- A mark between documents, or a directive: it closes all collections. -/
def betweenDocuments (s : Lexer) : Except Fault Lexer := do
  let s ← (s.unwind 0).dropKey
  return { s with keyAllowed := false }

/-- An opening bracket. -/
def openFlow (s : Lexer) (t : Token) : Except Fault Lexer := do
  let s ← s.keepKey
  return { s with depth := s.depth + 1, keyAllowed := true }.pushSign 1 t

/-- A closing bracket; there has to be an open one. -/
def closeFlow (s : Lexer) (t : Token) : Except Fault Lexer := do
  let s ← s.dropKey
  if s.depth == 0 then throw .malformed
  return { s with depth := s.depth - 1, keyAllowed := false }.pushSign 1 t

/-- A comma inside brackets. -/
def flowEntry (s : Lexer) : Except Fault Lexer := do
  let s ← { s with keyAllowed := true }.dropKey
  return s.pushSign 1 .flowEntry

/-- The dash of an item. -/
def blockEntry (s : Lexer) : Except Fault Lexer := do
  if !s.inFlow && !s.keyAllowed then throw .malformed
  let s := if s.inFlow then s else s.openAt s.place.column s.tokens.size .blockSequence
  let s ← { s with keyAllowed := true }.dropKey
  return s.pushSign 1 .entry

/-- The question mark of a key. -/
def explicitKey (s : Lexer) : Except Fault Lexer := do
  if !s.inFlow && !s.keyAllowed then throw .malformed
  let s := if s.inFlow then s else s.openAt s.place.column s.tokens.size .blockMapping
  let s ← { s with keyAllowed := !s.inFlow }.dropKey
  return s.pushSign 1 .key

/-- The colon of a value: it makes a kept place a key. -/
def colon (s : Lexer) : Except Fault Lexer := do
  match s.keys.find? fun k => k.depth == s.depth with
  | some k =>
    let s := { s with
      keys := s.keys.filter fun k => k.depth != s.depth
      tokens := s.tokens.insertIdxIfInBounds k.position .key }
    let s := if s.inFlow then s else s.openAt k.column k.position .blockMapping
    return { s with keyAllowed := false }.pushSign 1 .value
  | none =>
    if !s.inFlow && !s.keyAllowed then throw .malformed
    let s := if s.inFlow then s else s.openAt s.place.column s.tokens.size .blockMapping
    let s ← { s with keyAllowed := !s.inFlow }.dropKey
    return s.pushSign 1 .value

/-- A token that may begin a key and allows none behind it. -/
def inKey (s : Lexer) (read : Cursor → Except Fault (Token × Cursor)) : Except Fault Lexer := do
  let s ← s.keepKey
  let (t, place) ← read s.place
  return { s with keyAllowed := false, place }.push t

/-- A text without marks; a line that ends behind it allows a key again. -/
def plainText (s : Lexer) : Except Fault Lexer := do
  let s ← s.keepKey
  let (text, ended, place) := plain s.inFlow s.margin s.place
  return { s with keyAllowed := ended, place }.push (.text text true)

/-- A text in a block. -/
def blockText (s : Lexer) : Except Fault Lexer := do
  let s ← { s with keyAllowed := true }.dropKey
  let (text, place) ← block s.margin s.place
  return { s with place }.push (.text text false)

/-- The place of the next token: behind spaces, comments and line ends. The flag says that a line
ended. The fuel bounds the lines. -/
def passGap : Nat → Bool → Cursor → Bool × Cursor
  | 0, ended, c => (ended, c)
  | fuel + 1, ended, c =>
    let c := c.passSpaces
    let c := if c.next == '#' then c.passLine else c
    match c.lineEnd? with
    | some (_, c) => passGap fuel true c
    | none => (ended, c)

/-- Goes to the next token. -/
def toNext (s : Lexer) : Lexer :=
  let start := if s.place.index == 0 && s.place.next == '\ufeff' then s.place.step else s.place
  let (ended, place) := passGap (start.rest.length + 1) false start
  { s with place, keyAllowed := s.keyAllowed || (ended && !s.inFlow) }

/-- The token that begins here. -/
def token (s : Lexer) : Except Fault Lexer :=
  let c := s.place
  let x := c.next
  if x == '%' && c.column == 0 then do
    let s ← s.betweenDocuments
    let (d, place) ← directiveAt s.place
    return { s with place }.push (.directive d)
  else if c.column == 0 && c.atMark '-' then do
    return (← s.betweenDocuments).pushSign 3 .documentStart
  else if c.column == 0 && c.atMark '.' then do
    return (← s.betweenDocuments).pushSign 3 .documentEnd
  else if x == '[' then s.openFlow .flowSequence
  else if x == '\x7b' then s.openFlow .flowMapping
  else if x == ']' then s.closeFlow .flowSequenceEnd
  else if x == '\x7d' then s.closeFlow .flowMappingEnd
  else if x == ',' then s.flowEntry
  else if x == '-' && endsWord (c.ahead 1) then s.blockEntry
  else if x == '?' && (s.inFlow || endsWord (c.ahead 1)) then s.explicitKey
  else if x == ':' && (s.inFlow || endsWord (c.ahead 1)) then s.colon
  else if x == '*' then s.inKey fun c => (anchorName c).map fun r => (.alias r.1, r.2)
  else if x == '&' then s.inKey fun c => (anchorName c).map fun r => (.anchor r.1, r.2)
  else if x == '!' then s.inKey fun c => (tagAt c).map fun r => (.tag r.1, r.2)
  else if (x == '|' || x == '>') && !s.inFlow then s.blockText
  else if x == '\'' || x == '"' then s.inKey fun c => (quoted c).map fun r => (.text r.1 false, r.2)
  else if beginsPlain s.inFlow c then s.plainText
  else .error .malformed

/-- All tokens from here on. The fuel bounds their number. -/
def all : Nat → Lexer → Except Fault (Array Token)
  | 0, _ => .error .malformed
  | fuel + 1, s => do
    let s ← s.toNext.dropStale
    let s := s.unwind (s.place.column + 1)
    if s.place.rest.isEmpty then
      let s ← (s.unwind 0).dropKey
      return s.tokens
    all fuel (← s.token)

end Lexer

/-- The tokens of a text. -/
def Token.ofText (s : String) : Except Fault (List Token) :=
  let cs := s.toList
  if cs.all isAllowed then
    (Lexer.all (cs.length + 1) { place := ⟨cs, 0, 0, 0⟩ }).map Array.toList
  else .error .malformed

end StickerPages.Yaml
