import StickerPages.Content.Picture
import StickerPages.Text.Blank

/-!
# Shortcodes in a page

A page calls for a sticker by its shortcode, `:name:`, perhaps with blanks inside the colons. Filling
a page goes through it twice: first every known code becomes a picture, then every escaped code,
`\:name\:`, becomes plain.

Both passes read from left to right and never read a character twice. A code that is not known is
passed over together with its colons.
-/

namespace StickerPages.Content

/-- A character that can stand in a name. -/
def isNameChar (c : Char) : Bool :=
  c.isAlphanum || c == '_' || c == '-' || (0x4e00 ≤ c.toNat && c.toNat ≤ 0x9fa5)

/-- A code as it is written: a name, and the blanks around it. -/
structure Code where
  before : List Char
  name : List Char
  after : List Char
deriving DecidableEq, Repr

/-- The code's characters, colons included. -/
def Code.written (c : Code) : List Char :=
  ':' :: (c.before ++ c.name ++ c.after ++ [':'])

/-- The code whose opening colon has just been read, and what follows its closing colon. A code that
is followed by a backslash is none. -/
def code? (cs : List Char) : Option (Code × List Char) :=
  let before := cs.takeWhile Text.isBlank
  let cs := cs.dropWhile Text.isBlank
  let name := cs.takeWhile isNameChar
  let cs := cs.dropWhile isNameChar
  let after := cs.takeWhile Text.isBlank
  match cs.dropWhile Text.isBlank with
  | ':' :: rest =>
    if name.isEmpty || rest.head? == some '\\' then none else some (⟨before, name, after⟩, rest)
  | _ => none

/-- A code ends before the text does. -/
theorem code?_lt {cs : List Char} {c : Code} {rest : List Char} (h : code? cs = some (c, rest)) :
    rest.length < cs.length := by
  have shorter (p : Char → Bool) (xs : List Char) : (xs.dropWhile p).length ≤ xs.length :=
    (List.dropWhile_suffix p).length_le
  unfold code? at h
  dsimp only at h
  split at h
  · next r hr =>
    split at h
    · cases h
    · cases h
      have h1 := shorter Text.isBlank ((cs.dropWhile Text.isBlank).dropWhile isNameChar)
      have h2 := shorter isNameChar (cs.dropWhile Text.isBlank)
      have h3 := shorter Text.isBlank cs
      rw [hr] at h1
      simp only [List.length_cons] at h1
      omega
  · cases h

/-- Every code that stands in a text, known or not, with the text cut at the codes: a piece is either
one character or a code. `escaped` says that a backslash stands in front. -/
def pieces (escaped : Bool) : List Char → List (Char ⊕ Code)
  | [] => []
  | c :: r =>
    if c == ':' && !escaped then
      match h : code? r with
      | some (code, rest) =>
        have : rest.length < r.length := code?_lt h
        .inr code :: pieces false rest
      | none => .inl c :: pieces false r
    else .inl c :: pieces (c == '\\') r
termination_by cs => cs.length

/-- A piece of a page as it is filled. -/
def fillPiece (map : List (String × String)) (style : String) : Char ⊕ Code → List Char
  | .inl c => [c]
  | .inr code =>
    let name := String.ofList code.name
    match map.lookup (":" ++ name ++ ":") with
    | some url => (picture url name style).toList
    | none => code.written

/-- Every known code made a picture. -/
def fill (map : List (String × String)) (style : String) (cs : List Char) : List Char :=
  (pieces false cs).flatMap (fillPiece map style)

/-- A known code stands in the text. -/
def callsFor (map : List (String × String)) (cs : List Char) : Bool :=
  (pieces false cs).any fun
    | .inl _ => false
    | .inr code => (map.lookup (":" ++ String.ofList code.name ++ ":")).isSome

/-- An escaped code at the start: its name, and what follows. One backslash is enough, before either
colon. -/
def escapedCode? : List Char → Option (List Char × List Char)
  | '\\' :: ':' :: r =>
    let name := r.takeWhile isNameChar
    if name.isEmpty then none
    else
      match r.dropWhile isNameChar with
      | '\\' :: ':' :: rest => some (name, rest)
      | ':' :: rest => some (name, rest)
      | _ => none
  | ':' :: r =>
    let name := r.takeWhile isNameChar
    if name.isEmpty then none
    else
      match r.dropWhile isNameChar with
      | '\\' :: ':' :: rest => some (name, rest)
      | _ => none
  | _ => none

/-- An escaped code takes up some of the text. -/
theorem escapedCode?_lt {cs name rest : List Char} (h : escapedCode? cs = some (name, rest)) :
    rest.length < cs.length := by
  have shorter (xs : List Char) : (xs.dropWhile isNameChar).length ≤ xs.length :=
    (List.dropWhile_suffix isNameChar).length_le
  unfold escapedCode? at h
  split at h
  · next r =>
    have hs := shorter r
    dsimp only at h
    split at h
    · cases h
    · split at h
      · next hr => cases h; rw [hr] at hs; simp only [List.length_cons] at hs ⊢; omega
      · next hr => cases h; rw [hr] at hs; simp only [List.length_cons] at hs ⊢; omega
      · cases h
  · next r =>
    have hs := shorter r
    dsimp only at h
    split at h
    · cases h
    · split at h
      · next hr => cases h; rw [hr] at hs; simp only [List.length_cons] at hs ⊢; omega
      · cases h
  · cases h

/-- Every escaped code made plain. -/
def unescape : List Char → List Char
  | [] => []
  | c :: r =>
    match h : escapedCode? (c :: r) with
    | some (name, rest) =>
      have : rest.length < (c :: r).length := escapedCode?_lt h
      ':' :: (name ++ ':' :: unescape rest)
    | none => c :: unescape r
termination_by cs => cs.length
decreasing_by all_goals simp only [List.length_cons] at *; omega

/-- Fills a page: known codes become pictures with this style besides the usual one, and escaped
codes become plain. -/
def render (map : List (String × String)) (style content : String) : String :=
  String.ofList (unescape (fill map style content.toList))

end StickerPages.Content
