import StickerPages.Decimal.Spelling
import StickerPages.Pairs
import StickerPages.Text.Quoted

/-!
# Values of unknown shape

Catalogs, plugin settings and configuration files arrive as data whose shape nobody has checked
yet. `Value` holds such data as it was read: scalars, lists, and maps that keep the order in which
their keys were first written.

Keys are scalars. Two scalars are the *same* key when they are equal as numbers or as texts, so `1`,
`1.0` and `true` are one key; `Scalar.same` is that comparison and every look-up goes through it.
-/

namespace StickerPages

/-- A value without parts. A `stamp` is a scalar of a further kind (a date, say), known by the name
of its kind and by its two texts, plain and as shown inside a list. -/
inductive Scalar where
  | null
  | bool (b : Bool)
  | int (n : Int)
  | float (x : Float)
  | text (s : String)
  | stamp (kind plain shown : String)

/-- Data of any shape. -/
inductive Value where
  | scalar (s : Scalar)
  | list (items : List Value)
  | map (entries : List (Scalar × Value))

/-- The key-value pairs of a map, in the order of the keys' first appearance. -/
abbrev Entries := List (Scalar × Value)

instance : Inhabited Value := ⟨.scalar .null⟩

namespace Scalar

/-- A number's whole value, if it is one: truth values count as 0 and 1. -/
def whole? : Scalar → Option Int
  | .bool b => some (if b then 1 else 0)
  | .int n => some n
  | _ => none

/-- Equality across kinds of number. -/
def same (a b : Scalar) : Bool :=
  match a, b with
  | .null, .null => true
  | .text s, .text t => s == t
  | .stamp k p _, .stamp l q _ => k == l && p == q
  | .float x, .float y => x == y
  | .float x, b =>
    match b.whole? with
    | some n => (Decimal.Double.ofFloat x).isInt n
    | none => false
  | a, .float y =>
    match a.whole? with
    | some n => (Decimal.Double.ofFloat y).isInt n
    | none => false
  | a, b =>
    match a.whole?, b.whole? with
    | some m, some n => m == n
    | _, _ => false

/-- Null, false, zero and the empty text do not count as present. -/
def truthy : Scalar → Bool
  | .null => false
  | .bool b => b
  | .int n => n != 0
  | .float x => !(x == 0.0)
  | .text s => !s.isEmpty
  | .stamp .. => true

/-- The scalar as a text of its own. -/
def plain : Scalar → String
  | .null => "None"
  | .bool true => "True"
  | .bool false => "False"
  | .int n => toString n
  | .float x => Decimal.fractions.float x
  | .text s => s
  | .stamp _ p _ => p

/-- The scalar as shown inside a list, a map or a message: a text stands between quote marks. -/
def shown : Scalar → String
  | .text s => s.inQuotes
  | .stamp _ _ q => q
  | s => s.plain

/-- The name of the scalar's kind. -/
def kindName : Scalar → String
  | .null => "NoneType"
  | .bool _ => "bool"
  | .int _ => "int"
  | .float _ => "float"
  | .text _ => "str"
  | .stamp k _ _ => k

end Scalar

/-- Two keys are one when they are the same scalar. -/
instance : BEq Scalar := ⟨Scalar.same⟩

namespace Entries

/-- The value at a text key. -/
def at? (es : Entries) (name : String) : Option Value :=
  es.lookup (.text name)

end Entries

namespace Value

/-- The null value. -/
abbrev null : Value := .scalar .null

/-- A text. -/
abbrev text (s : String) : Value := .scalar (.text s)

/-- A truth value. -/
abbrev bool (b : Bool) : Value := .scalar (.bool b)

/-- A whole number. -/
abbrev int (n : Int) : Value := .scalar (.int n)

/-- Null, false, zero and everything empty do not count as present. -/
def truthy : Value → Bool
  | .scalar s => s.truthy
  | .list xs => !xs.isEmpty
  | .map es => !es.isEmpty

/-- The value itself if it counts as present, else the alternative. -/
def orElse (v alternative : Value) : Value :=
  if v.truthy then v else alternative

/-- The value is this scalar, numbers compared across kinds. -/
def isScalar (v : Value) (s : Scalar) : Bool :=
  match v with
  | .scalar t => t.same s
  | _ => false

/-- The text, if the value is one. -/
def text? : Value → Option String
  | .scalar (.text s) => some s
  | _ => none

/-- The number, if the value is a whole one: truth values count as 0 and 1. -/
def whole? : Value → Option Int
  | .scalar s => s.whole?
  | _ => none

/-- The value as a whole number; whatever is none counts as 0. -/
def whole (v : Value) : Int := v.whole?.getD 0

/-- What the value is gone through by: a list by its items, a map by its keys, a text by its
characters. Nothing else can be gone through. -/
def items? : Value → Option (List Value)
  | .list xs => some xs
  | .map es => some (es.map fun e => .scalar e.1)
  | .scalar (.text s) => some (s.toList.map fun c => .text (String.singleton c))
  | .scalar _ => none

/-- The name of the value's kind. -/
def kindName : Value → String
  | .scalar s => s.kindName
  | .list _ => "list"
  | .map _ => "dict"

mutual
/-- The value as shown inside a message. -/
def shown : Value → String
  | .scalar s => s.shown
  | .list xs => "[" ++ ", ".intercalate (shownItems xs) ++ "]"
  | .map es => "\x7b" ++ ", ".intercalate (shownEntries es) ++ "\x7d"

/-- Every item of a list as shown inside a message. -/
def shownItems : List Value → List String
  | [] => []
  | x :: r => x.shown :: shownItems r

/-- Every pair of a map as shown inside a message. -/
def shownEntries : List (Scalar × Value) → List String
  | [] => []
  | (k, v) :: r => (k.shown ++ ": " ++ v.shown) :: shownEntries r
end

/-- The value as a text of its own: like `shown`, but a text stands without quote marks. -/
def plain : Value → String
  | .scalar s => s.plain
  | v => v.shown

end Value

end StickerPages
