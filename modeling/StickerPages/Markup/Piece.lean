import StickerPages.Markup.Node
import StickerPages.Markup.Reference
import StickerPages.Text.Case

/-!
# The pieces of a page

`pieces` cuts a page's characters into tags, texts and notes. It is lenient: whatever cannot be a
tag is text. It reads in two phases. While *feeding* it stops at anything that might still be
completed by more characters, an open tag or a reference cut short; from there on it is *closing*,
and takes such a remainder as text. A malformed numbered reference stops the reading as well; the
second such stop makes everything that is left one text.

Inside a script or a style sheet only the matching end tag is a tag.

`next` is one step of the reading and says everything; `piecesFrom` only repeats it.
-/

namespace StickerPages.Markup

/-- A cut of the page. A `text` may be empty and several may follow each other; together they are
one text. -/
inductive Piece where
  | start (name : String) (attrs : List (String × String)) (closed : Bool)
  | stop (name : String)
  | text (content : List Char)
  | note (kind : TextKind) (content : List Char)
deriving DecidableEq, Repr

/-- The two phases of reading. -/
inductive Phase where
  | feeding
  | closing
deriving DecidableEq, Repr

/-- One step: some pieces, the element whose raw content follows, and the rest; or a stop. -/
inductive Step where
  | go (found : List Piece) (raw : Option String) (rest : List Char)
  | stopAt (found : List Piece) (rest : List Char)

/-! ## Searching -/

/-- What stands before the first `c`, and what follows it. -/
def splitAtChar? (c : Char) : List Char → Option (List Char × List Char)
  | [] => none
  | d :: r => if d = c then some ([], r) else (splitAtChar? c r).map fun (a, b) => (d :: a, b)

/-- What stands before the first place where `tail?` succeeds, and what it leaves. -/
def splitWhere? (tail? : List Char → Option (List Char)) :
    List Char → Option (List Char × List Char)
  | [] => (tail? []).map fun r => ([], r)
  | c :: r =>
    match tail? (c :: r) with
    | some r' => some ([], r')
    | none => (splitWhere? tail? r).map fun (a, b) => (c :: a, b)

/-- Drops blanks, then one given character. -/
def blanksThen? (c : Char) (cs : List Char) : Option (List Char) :=
  match Text.trimLeft cs with
  | d :: r => if d = c then some r else none
  | [] => none

/-- The end of a comment: two dashes, blanks, a closing bracket. -/
def commentEnd? : List Char → Option (List Char)
  | '-' :: '-' :: r => blanksThen? '>' r
  | _ => none

/-- The end of a marked section: two square brackets and a closing bracket, blanks between. -/
def sectionEnd? : List Char → Option (List Char)
  | ']' :: r => blanksThen? ']' r >>= blanksThen? '>'
  | _ => none

/-- The end of a conditional section: a square bracket, blanks, a closing bracket. -/
def conditionEnd? : List Char → Option (List Char)
  | ']' :: r => blanksThen? '>' r
  | _ => none

/-! ## Start tags -/

/-- Characters that end the name of a tag. -/
def endsTagName (c : Char) : Bool :=
  c == '\t' || c == '\n' || c == '\r' || c == '\x0c' || c == ' ' || c == '/' || c == '>' ||
    c == '\x00'

/-- Blanks and slashes, but no slash that closes the tag. -/
def skipBetween : List Char → List Char
  | [] => []
  | '/' :: '>' :: r => '/' :: '>' :: r
  | c :: r => if Text.isBlank c || c = '/' then skipBetween r else c :: r

/-- A value behind its equals signs. `gap` says whether blanks stand between them. -/
def attrValueFrom? (signs : Nat) (gap : List Char) (cs : List Char) :
    Option (List Char × List Char) :=
  let bare (cs : List Char) : List Char × List Char :=
    let stays (c : Char) : Bool := !(c == '>' || Text.isBlank c)
    (cs.takeWhile stays, cs.dropWhile stays)
  match cs with
  | '\'' :: r =>
    match splitAtChar? '\'' r with
    | some found => some found
    | none =>
      if !gap.isEmpty then some ([], cs) else if 1 < signs then some (bare ('=' :: cs)) else none
  | '"' :: r =>
    match splitAtChar? '"' r with
    | some found => some found
    | none =>
      if !gap.isEmpty then some ([], cs) else if 1 < signs then some (bare ('=' :: cs)) else none
  | cs => some (bare cs)

/-- Blanks, equals signs, blanks and a value. An unclosed quote mark is no value; then the last
blank before it is taken as an empty value, or the last of several equals signs begins it. -/
def attrValue? (cs : List Char) : Option (List Char × List Char) :=
  let cs := Text.trimLeft cs
  let signs := (cs.takeWhile (· == '=')).length
  if signs = 0 then none
  else
    let cs := cs.drop signs
    attrValueFrom? signs (cs.takeWhile Text.isBlank) (Text.trimLeft cs)

/-- Characters that end the name of an attribute; the first character may be an equals sign. -/
def endsAttrName (c : Char) : Bool :=
  c == '/' || c == '=' || c == '>' || Text.isBlank c

/-- An attribute may begin only behind a blank, a slash or a quote mark. -/
def opensAttr (c : Char) : Bool :=
  c == '\'' || c == '"' || c == '/' || Text.isBlank c

/-- The attributes from here on; `last` is the character read before. -/
def attrsFrom : Nat → Char → List Char → List (String × String) × Char × List Char
  | 0, last, cs => ([], last, cs)
  | fuel + 1, last, cs =>
    match cs with
    | [] => ([], last, [])
    | c :: r =>
      if !opensAttr last || c = '>' || c = '/' || Text.isBlank c then ([], last, cs)
      else
        let stays (d : Char) : Bool := !endsAttrName d
        let name := c :: r.takeWhile stays
        let afterName := r.dropWhile stays
        let (value, rest) := match attrValue? afterName with
          | some (v, rest) => (v, rest)
          | none => ([], afterName)
        let next := skipBetween rest
        let read := cs.length - next.length
        let last := (cs.drop (read - 1)).headD c
        let (more, last, rest) := attrsFrom fuel last next
        ((String.ofList (Text.small name), String.ofList (decode value)) :: more, last, rest)

/-- A start tag, after its opening bracket. Nothing is returned if it is cut short; a tag that runs
into a character which cannot belong to it is text. -/
def startTag? (cs : List Char) : Option (Step) :=
  let stays (c : Char) : Bool := !endsTagName c
  let name := cs.takeWhile stays
  let afterName := cs.dropWhile stays
  let next := skipBetween afterName
  let read := cs.length - next.length
  let last := (cs.drop (read - 1)).headD '<'
  let (attrs, _, rest) := attrsFrom cs.length last next
  let rest := Text.trimLeft rest
  let tag := String.ofList (Text.small name)
  match rest with
  | [] => none
  | '>' :: r => some (.go [.start tag attrs false] (if rawNames.contains tag then some tag else none) r)
  | '/' :: '>' :: r => some (.go [.start tag attrs true] none r)
  | c :: _ =>
    if c.isAlpha || c = '=' || c = '/' then none
    else some (.go [.text ('<' :: cs.take (cs.length - rest.length))] none rest)

/-! ## Other markup -/

/-- Characters of a name in an end tag. -/
def isStopNameChar (c : Char) : Bool :=
  c.isAlphanum || c == '-' || c == '.' || c == ':' || c == '_'

/-- A plain end tag after its slash: blanks, a name, blanks, the closing bracket. -/
def plainStop? (cs : List Char) : Option (List Char × List Char) :=
  let cs := Text.trimLeft cs
  match cs with
  | c :: _ =>
    if c.isAlpha then
      (blanksThen? '>' (cs.dropWhile isStopNameChar)).map fun r => (cs.takeWhile isStopNameChar, r)
    else none
  | [] => none

/-- An end tag, after its slash; anything that has no name is a note, and without any character
nothing at all. -/
def stopTag? (cs : List Char) : Option Step :=
  match splitAtChar? '>' cs with
  | none => none
  | some (inside, after) =>
    match plainStop? cs with
    | some (name, r) => some (.go [.stop (String.ofList (Text.asciiSmall name))] none r)
    | none =>
      match cs with
      | c :: _ =>
        if c.isAlpha then
          let name := cs.takeWhile fun d => !endsTagName d
          some (.go [.stop (String.ofList (Text.small name))] none after)
        else if c = '>' then some (.go [] none after)
        else some (.go [.note .comment inside] none after)
      | [] => none

/-- Characters of the keyword of a marked section. -/
def isKeywordChar (c : Char) : Bool :=
  c.isAlphanum || c == '-' || c == '.' || c == '_'

/-- A marked section, after its square bracket. A keyword that is not known makes the whole of it
text. -/
def markedSection? (cs : List Char) : Option Step :=
  let word := String.ofList (Text.asciiSmall (cs.takeWhile isKeywordChar))
  let afterWord := Text.trimLeft (cs.dropWhile isKeywordChar)
  let known (tail? : List Char → Option (List Char)) : Option Step :=
    if afterWord.isEmpty then none
    else
      (splitWhere? tail? cs).map fun (inside, after) =>
        if Text.asciiSmall (inside.take 6) = "cdata[".toList then
          .go [.note .cdata (inside.drop 6)] none after
        else .go [.note .declaration inside] none after
  if ["temp", "cdata", "ignore", "include", "rcdata"].contains word then known sectionEnd?
  else if ["if", "else", "endif"].contains word then known conditionEnd?
  else none

/-- Markup that begins with an exclamation mark, after that mark. -/
def declaration? (cs : List Char) : Option Step :=
  match cs with
  | '-' :: '-' :: r =>
    (splitWhere? commentEnd? r).map fun (inside, after) => .go [.note .comment inside] none after
  | '[' :: r => markedSection? r
  | cs =>
    (splitAtChar? '>' cs).map fun (inside, after) =>
      if Text.asciiSmall (inside.take 7) = "doctype".toList then
        .go [.note .doctype (inside.drop 8)] none after
      else .go [.note .comment inside] none after

/-- Markup after its opening bracket; nothing if it is cut short or is no markup. -/
def markup? (cs : List Char) : Option Step :=
  match cs with
  | '/' :: r => stopTag? r
  | '!' :: r => declaration? r
  | '?' :: r =>
    (splitAtChar? '>' r).map fun (inside, after) => .go [.note .instruction inside] none after
  | cs => startTag? cs

/-- The character after an opening bracket that begins markup. -/
def opensMarkup : List Char → Bool
  | c :: _ => c.isAlpha || c == '/' || c == '!' || c == '?'
  | [] => false

/-- Markup that is cut short, taken as text: up to its closing bracket, or else up to the next
opening one, or else the bracket alone. -/
def cutShort (cs : List Char) : Step :=
  match splitAtChar? '>' cs with
  | some (inside, after) => .go [.text ('<' :: inside ++ ['>'])] none after
  | none =>
    match splitAtChar? '<' cs with
    | some (inside, after) => .go [.text ('<' :: inside)] none ('<' :: after)
    | none => .go [.text ['<']] none cs

/-! ## References in running text -/

/-- Characters of a name in running text. -/
def isReferenceChar (c : Char) : Bool :=
  c.isAlphanum || c == '-' || c == '.'

/-- A numbered reference, after its number sign. -/
def numberedReference? (cs : List Char) : Option (List Char × List Char) :=
  let number (ds rest : List Char) (n : Nat) : Option (List Char × List Char) :=
    match rest with
    | [] => none
    | c :: _ => if ds.isEmpty || Text.isHexDigit c then none else some (ofNumber n, dropSemicolon rest)
  match cs with
  | 'x' :: r | 'X' :: r =>
    let ds := r.takeWhile Text.isHexDigit
    number ds (r.dropWhile Text.isHexDigit) (Text.number 16 ds)
  | cs =>
    let ds := cs.takeWhile Char.isDigit
    number ds (cs.dropWhile Char.isDigit) (Text.number 10 ds)

/-- A named reference, after its ampersand. A name that runs to the end of the page is cut at its
last dash or point. -/
def namedReference? (cs : List Char) : Option (List Char × List Char) :=
  let run := cs.takeWhile isReferenceChar
  match cs.dropWhile isReferenceChar with
  | c :: r => some (ofName (String.ofList run), dropSemicolon (c :: r))
  | [] =>
    let tail := (run.reverse.takeWhile Char.isAlphanum).length
    let kept := run.length - tail - 1
    if tail = run.length then none
    else some (ofName (String.ofList (run.take kept)), run.drop kept)

/-- A reference after its ampersand, or a stop. -/
def reference (phase : Phase) (cs : List Char) : Step :=
  match cs with
  | '#' :: r =>
    match numberedReference? r with
    | some (text, rest) => .go [.text text] none rest
    | none =>
      if cs.contains ';' then .stopAt [.text ['&', '#']] r else .stopAt [] ('&' :: cs)
  | c :: r =>
    if c.isAlpha then
      match namedReference? cs with
      | some (text, rest) => .go [.text text] none rest
      | none => if phase = .closing && r.isEmpty then .stopAt [] cs else .stopAt [] ('&' :: cs)
    else .go [.text ['&']] none cs
  | [] => .stopAt [] ['&']

/-! ## The reading -/

/-- Characters that fold to the letter `a` when case is ignored. -/
def foldsTo (a c : Char) : Bool :=
  c.toLower == a || (a == 's' && c == 'ſ') || (a == 'i' && (c == 'İ' || c == 'ı'))

/-- Drops a name, case ignored. -/
def dropName? : List Char → List Char → Option (List Char)
  | [], cs => some cs
  | _ :: _, [] => none
  | a :: r, c :: cs => if foldsTo a c then dropName? r cs else none

/-- The end tag of the raw element `name` stands in front. -/
def rawStop? (name : String) : List Char → Option (List Char)
  | '<' :: '/' :: r => dropName? name.toList (Text.trimLeft r) >>= blanksThen? '>'
  | _ => none

/-- A step inside the raw element `name`. -/
def nextRaw (name : String) (cs : List Char) : Step :=
  match splitWhere? (rawStop? name) cs with
  | none => .stopAt [] cs
  | some (inside, after) =>
    let tag := (cs.drop inside.length).take (cs.length - inside.length - after.length)
    let before := if inside.isEmpty then [] else [Piece.text inside]
    if tag.all fun c => c.toNat < 0x80 || Text.isBlank c then
      .go (before ++ [.stop name]) none after
    else .go (before ++ [.text tag]) (some name) after

/-- One step of the reading, from a rest that is not empty. -/
def next (phase : Phase) (raw : Option String) (cs : List Char) : Step :=
  match raw with
  | some name => nextRaw name cs
  | none =>
    let isPlain (c : Char) : Bool := !(c == '<' || c == '&')
    let before := cs.takeWhile isPlain
    if !before.isEmpty then .go [.text before] none (cs.dropWhile isPlain)
    else
      match cs with
      | '<' :: r =>
        if opensMarkup r then
          match markup? r with
          | some step => step
          | none => if phase = .closing then cutShort r else .stopAt [] cs
        else if r.isEmpty then .stopAt [] cs
        else .go [.text ['<']] none r
      | '&' :: r => reference phase r
      | cs => .stopAt [] cs

/-- Repeats the step. -/
def piecesFrom : Nat → Phase → Option String → List Char → List Piece
  | 0, _, _, _ => []
  | fuel + 1, phase, raw, cs =>
    if cs.isEmpty then []
    else
      match next phase raw cs with
      | .go found raw rest => found ++ piecesFrom fuel phase raw rest
      | .stopAt found rest =>
        match phase with
        | .feeding => found ++ piecesFrom fuel .closing raw rest
        | .closing => if raw.isNone && !rest.isEmpty then found ++ [.text rest] else found

/-- The pieces of a page, in order. -/
def pieces (page : List Char) : List Piece :=
  piecesFrom (2 * page.length + 2) .feeding none page

end StickerPages.Markup
