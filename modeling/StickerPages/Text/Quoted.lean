import StickerPages.Text.Case
import StickerPages.Text.Digits
import StickerPages.Text.Shapeless

/-!
# Quoted text

How a text is shown inside a message: between quote marks, single ones unless the text holds a
single quote mark and no double one, with the backslash, the quote mark in use and every character
without a visible shape written as an escape.
-/

namespace StickerPages.Text

/-- A character without a visible shape, by number: two, four or eight digits, as few as fit. -/
def numberedEscape (c : Char) : List Char :=
  let n := c.toNat
  if n < 0x100 then '\\' :: 'x' :: hexDigits 2 n
  else if n < 0x10000 then '\\' :: 'u' :: hexDigits 4 n
  else '\\' :: 'U' :: hexDigits 8 n

/-- One character of a text that stands between `quote` marks. -/
def quotedChar (quote c : Char) : List Char :=
  if c = quote || c = '\\' then ['\\', c]
  else if c = '\n' then ['\\', 'n']
  else if c = '\r' then ['\\', 'r']
  else if c = '\t' then ['\\', 't']
  else if c = ' ' then [c]
  else if inRanges shapeless c.toNat then numberedEscape c
  else [c]

/-- The quote mark for a text: single, unless it holds a single one and no double one. -/
def quoteMark (cs : List Char) : Char :=
  if cs.contains '\'' && !cs.contains '"' then '"' else '\''

/-- The text between quote marks. -/
def quoted (cs : List Char) : List Char :=
  let q := quoteMark cs
  q :: cs.flatMap (quotedChar q) ++ [q]

end StickerPages.Text

namespace String

/-- The text as a message shows it between quote marks. -/
def inQuotes (s : String) : String :=
  String.ofList (StickerPages.Text.quoted s.toList)

end String
