import StickerPages.Text.Direction

/-!
# Selectors

A selector names elements by what they are and where they stand. It is a list of alternatives, and an
alternative is a list of conditions on one element, all of which have to hold. What a combinator says is
a condition too: `div > p` is the condition of being a `p` together with the condition of being a child
of an element that is a `div`. So there is one recursive type, `Condition`, and no other structure.

A list of alternatives may be *confined*: it then looks at an element from inside the frame that the
element lies in, and knows no page around that frame.
-/

namespace StickerPages.Markup

/-- How two elements stand to each other. -/
inductive Combinator where
  | descendant
  | child
  | adjacent
  | sibling
deriving DecidableEq, Repr

/-- How an attribute is compared with a given text. -/
inductive Comparison where
  | equals
  | word
  | dash
  | starts
  | ends
  | contains
deriving DecidableEq, Repr

/-- Which places in a row are meant. -/
inductive Formula where
  /-- The place of this number. -/
  | once (n : Int)
  /-- Every `step`-th place, counted from `offset`. -/
  | every (step offset : Int)
deriving DecidableEq, Repr

/-- A position counted among siblings, from the front or the back, all elements or only those of the
same name. -/
structure Position where
  fromBack : Bool
  sameName : Bool
  formula : Formula
deriving DecidableEq, Repr

/-- A condition on an element. -/
inductive Condition where
  /-- What no element meets. -/
  | never
  /-- The name, a star for any, and what stands in front of it to say where names come from. -/
  | named (space : Option String) (name : String)
  /-- The name is not one that pages make up for themselves. -/
  | defined
  /-- The only element at the top of its page. -/
  | root
  /-- The first element at the top of the page. -/
  | scope
  /-- There is no text inside, or a single line break. -/
  | blank
  /-- The position is counted among the siblings that meet one of the alternatives. -/
  | position (p : Position) (confined : Bool) (among : List (List Condition))
  | empty
  | identified (id : String)
  | classed (name : String)
  | hasAttr (name : String)
  | attr (name : String) (how : Comparison) (value : String) (foldCase : Bool)
  /-- The value of a field with bounds lies between them, or does not. -/
  | bounded (within : Bool)
  /-- The language is one of the given ranges. -/
  | speaks (ranges : List String)
  | oneOf (confined : Bool) (alternatives : List (List Condition))
  | noneOf (confined : Bool) (alternatives : List (List Condition))
  /-- By the combinator the element is reached from one that meets the conditions. -/
  | reached (joint : Combinator) (conditions : List Condition)
  /-- By the combinator the element reaches one that meets the conditions. -/
  | reaches (joint : Combinator) (conditions : List Condition)
  /-- The button that sends its form unless another one is pressed. -/
  | sendsForm
  /-- A choice among several, none of which is taken. -/
  | undecided
  | runs (d : Text.Direction)
  /-- One of the texts stands in the element. `whole` says that the element's text is one piece, else
  every text right below is a piece; `inside` says that the text is looked for inside each piece. -/
  | holdsText (whole inside : Bool) (texts : List String)

/-- A list of alternatives for an element to meet. -/
structure Selector where
  confined : Bool
  alternatives : List (List Condition)

namespace Selector

/-- Why a selector selects nothing at all. -/
inductive Refusal where
  /-- It is no selector. -/
  | malformed
  /-- It speaks of parts of elements or of rules, which pages do not have. -/
  | unsupported
  /-- It spells a character by a number that no character has. -/
  | noCharacter
  /-- It asks for the bounds of a field that does not say what it is a field for. -/
  | noKind
  /-- It asks for a week of a year that is not written in four digits. -/
  | noCalendar
  /-- It asks for the form of a choice that stands right below a frame. -/
  | noForm
deriving DecidableEq, Repr

/-- The space characters of selectors. -/
def isSpace (c : Char) : Bool :=
  c == ' ' || c == '\t' || c == '\n' || c == '\x0c' || c == '\r'

/-- Nothing is left, or nothing but the line break that ends a last line. -/
def atEnd : List Char → Bool
  | [] => true
  | ['\n'] => true
  | _ => false

end Selector

namespace Condition

/-- The condition is a list of alternatives. -/
def isChoice : Condition → Bool
  | .oneOf .. | .noneOf .. => true
  | _ => false

/-- When a condition is asked about: what can be told from the element's names and from the page's top
first, then what needs its siblings, its attributes, its language, other alternatives, other elements. -/
def rank : Condition → Nat
  | .never | .named .. | .defined | .root | .scope | .blank => 0
  | .position .. => 1
  | .empty | .identified _ | .classed _ | .hasAttr _ | .attr .. => 2
  | .bounded _ => 3
  | .speaks _ => 4
  | .oneOf .. | .noneOf .. => 5
  | .reached .. | .reaches .. => 6
  | .sendsForm | .undecided => 7
  | .runs _ | .holdsText .. => 8

/-- The conditions in the order in which they are asked about. -/
def ordered (cs : List Condition) : List Condition :=
  (List.range 9).flatMap fun k => cs.filter fun c => c.rank == k

theorem rank_lt (c : Condition) : c.rank < 9 := by
  cases c <;> simp [rank]

/-- Ordering loses no condition and adds none. -/
theorem mem_ordered {c : Condition} {cs : List Condition} : c ∈ ordered cs ↔ c ∈ cs := by
  simp only [ordered, List.mem_flatMap, List.mem_range, List.mem_filter, beq_iff_eq]
  exact ⟨fun ⟨_, _, h, _⟩ => h, fun h => ⟨c.rank, rank_lt c, h, rfl⟩⟩

end Condition

end StickerPages.Markup
