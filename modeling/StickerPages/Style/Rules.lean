import StickerPages.Text.Blank

/-!
# Top-level rules of a style sheet

A rule is a selector with a braced block. Only the rules that stand outside every other block count:
what a conditional block holds applies on conditions nobody checks here, so such a block is passed
over whole.
-/

namespace StickerPages.Style

/-- A selector and what its braces hold. -/
structure Rule where
  selector : String
  body : String
deriving DecidableEq, Repr

/-- A rule, unless its selector is empty or begins with an at sign. -/
def rule? (preludeText body : List Char) : Option Rule :=
  match Text.trim preludeText with
  | [] => none
  | '@' :: _ => none
  | s => some ⟨String.ofList s, String.ofList body⟩

/-- The rules from here on: `depth` blocks are open, `lead` is the text in front of the outermost one
and `body` the text inside it, both in reverse. -/
def rulesFrom (depth : Nat) (lead body : List Char) : List Char → List Rule
  | [] => []
  | c :: r =>
    if c = '\x7b' then
      rulesFrom (depth + 1) lead (if depth = 0 then body else c :: body) r
    else if c = '\x7d' && depth != 0 then
      if depth = 1 then (rule? lead.reverse body.reverse).toList ++ rulesFrom 0 [] [] r
      else rulesFrom (depth - 1) lead (c :: body) r
    else if depth != 0 then rulesFrom depth lead (c :: body) r
    else if c = ';' then rulesFrom 0 [] body r
    else rulesFrom 0 (c :: lead) body r

/-- The top-level rules of a style sheet. -/
def rules (css : String) : List Rule :=
  rulesFrom 0 [] [] css.toList

/-- What follows the end of a comment. -/
def afterComment? : List Char → Option (List Char)
  | '*' :: '/' :: r => some r
  | _ :: r => afterComment? r
  | [] => none

theorem afterComment?_length {cs r : List Char} (h : afterComment? cs = some r) :
    r.length < cs.length := by
  fun_induction afterComment? cs with
  | case1 s =>
    cases h
    simp only [List.length_cons]
    omega
  | case2 c s _ ih =>
    have := ih h
    simp only [List.length_cons]
    omega
  | case3 => simp at h

/-- A style sheet without its comments; a comment that is not closed stays. -/
def stripComments : List Char → List Char
  | '/' :: '*' :: r =>
    match _h : afterComment? r with
    | some r' => stripComments r'
    | none => '/' :: stripComments ('*' :: r)
  | c :: r => c :: stripComments r
  | [] => []
termination_by cs => cs.length
decreasing_by
  · have := afterComment?_length ‹_›; simp; omega
  · simp
  · simp

end StickerPages.Style
