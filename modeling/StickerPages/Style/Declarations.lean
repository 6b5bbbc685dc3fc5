import StickerPages.Pairs
import StickerPages.Text.Blank
import StickerPages.Text.Case

/-!
# Style declarations

The text of a style attribute, `name: value; name: value`. A semicolon inside quotes, parentheses or
behind a backslash belongs to a value. `Cursor` is what has to be known about the text read so far
to tell; `splitTopLevel` cuts the text, `parse` reads it into declarations, the last value of a
name winning, and `serialize` writes declarations back.
-/

namespace StickerPages.Style

/-- Where a reading of style text stands. -/
structure Cursor where
  /-- Parentheses open. -/
  depth : Nat
  /-- The quote mark that is open. -/
  quote : Option Char
  /-- The last character was a backslash that takes the next one's meaning. -/
  escaped : Bool
deriving DecidableEq, Repr

/-- Outside everything. -/
def Cursor.outside : Cursor := ⟨0, none, false⟩

/-- Reads one character; `none` where the character separates. The order of the tests decides when
the separator is itself a quote mark, a parenthesis or a backslash. -/
def Cursor.advance (separator : Char) (s : Cursor) (c : Char) : Option Cursor :=
  if s.escaped then some { s with escaped := false }
  else if c = '\\' then some { s with escaped := true }
  else
    match s.quote with
    | some q => some (if c = q then { s with quote := none } else s)
    | none =>
      if c = '"' || c = '\'' then some { s with quote := some c }
      else if c = '(' then some { s with depth := s.depth + 1 }
      else if c = ')' && s.depth != 0 then some { s with depth := s.depth - 1 }
      else if c = separator && s.depth == 0 then none
      else some s

/-- The parts from here on; `part` holds the characters of the current one, in reverse. -/
def splitFrom (separator : Char) (s : Cursor) (part : List Char) : List Char → List (List Char)
  | [] => [part.reverse]
  | c :: r =>
    match s.advance separator c with
    | some s' => splitFrom separator s' (c :: part) r
    | none => part.reverse :: splitFrom separator s [] r

/-- Cuts a text at every separator that stands outside quotes and parentheses. -/
def splitTopLevel (separator : Char) (text : List Char) : List (List Char) :=
  splitFrom separator .outside [] text

/-- Names and values in the order the names were first written. -/
abbrev Declarations := List (String × String)

/-- A name that begins with two dashes. -/
def isCustom (name : List Char) : Bool :=
  name.take 2 == ['-', '-']

/-- Custom names are told apart by case, others are not. -/
def nameKey (name : List Char) : String :=
  String.ofList (if isCustom name then name else Text.small name)

/-- One declaration: a name that is not blank, a colon, a value. -/
def declaration? (part : List Char) : Option (String × String) :=
  if part.contains ':' then
    let name := Text.trim (part.takeWhile (· != ':'))
    let value := (part.dropWhile (· != ':')).drop 1
    if name.isEmpty then none else some (nameKey name, String.ofList (Text.trim value))
  else none

/-- The declarations of a style text. -/
def parse (style : String) : Declarations :=
  Pairs.putAll [] ((splitTopLevel ';' style.toList).filterMap declaration?)

/-- Declarations as a style text, closed by a semicolon. -/
def serialize (ds : Declarations) : String :=
  "; ".intercalate (ds.map fun d => d.1 ++ ": " ++ d.2) ++ ";"

end StickerPages.Style
