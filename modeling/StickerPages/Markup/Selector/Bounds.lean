import StickerPages.Calendar
import StickerPages.Decimal.Spelling
import StickerPages.Markup.Selector.Attribute
import StickerPages.Text.Digits

/-!
# Fields with bounds

A field for a number, a day, a month, a week or a time of day may say the least and the greatest value
that it takes. A bound that cannot be read is no bound, and a value that cannot be read breaks none.
Times of day go round: where the least is later than the greatest, the values between them are out.
-/

namespace StickerPages.Markup.Selector

open Text (someDigits? behind?)

/-- What a field measures. -/
inductive Measure where
  | number (x : Float)
  /-- Parts of a day or a time, the largest first. -/
  | parts (ns : List Nat)

/-- An earlier list of parts: smaller in the first part that differs. -/
def earlier : List Nat → List Nat → Bool
  | m :: ms, n :: ns => m < n || (m == n && earlier ms ns)
  | [], _ :: _ => true
  | _, [] => false

/-- Less, of two values of one kind. -/
def Measure.less : Measure → Measure → Bool
  | .number x, .number y => x < y
  | .parts ms, .parts ns => earlier ms ns
  | _, _ => false

/-- A number: digits with or without a fraction, or a fraction alone, perhaps negative. -/
def readNumber? (cs : List Char) : Option Float :=
  let (negative, cs) := match cs with
    | '-' :: r => (true, r)
    | r => (false, r)
  let whole := cs.takeWhile Char.isDigit
  let make (fraction : List Char) : Float :=
    Decimal.ofDecimal negative (Text.number 10 (whole ++ fraction)) (-fraction.length)
  match cs.dropWhile Char.isDigit with
  | '.' :: r =>
    let fraction := r.takeWhile Char.isDigit
    if !fraction.isEmpty && atEnd (r.dropWhile Char.isDigit) then some (make fraction) else none
  | r => if !whole.isEmpty && atEnd r then some (make []) else none

/-- A year of at least four digits, and what follows. -/
def readYear? (cs : List Char) : Option (Nat × List Char) :=
  someDigits? 4 cs.length cs

/-- A sign, two digits, and what follows. -/
def readTwo? (sign : Char) (cs : List Char) : Option (Nat × List Char) :=
  (behind? sign cs).bind (someDigits? 2 2)

/-- The parts, if nothing is left over and the condition on them holds. -/
def whole? (parts : List Nat) (rest : List Char) (holds : Bool) : Option (List Nat) :=
  if atEnd rest && holds then some parts else none

def readDay? (cs : List Char) : Option (List Nat) := do
  let (year, r) ← readYear? cs
  let (month, r) ← readTwo? '-' r
  let (day, r) ← readTwo? '-' r
  whole? [year, month, day] r (Calendar.hasDay year month day)

def readMonth? (cs : List Char) : Option (List Nat) := do
  let (year, r) ← readYear? cs
  let (month, r) ← readTwo? '-' r
  whole? [year, month] r (1 ≤ year && 1 ≤ month && month ≤ 12)

def readTime? (cs : List Char) : Option (List Nat) := do
  let (hour, r) ← someDigits? 2 2 cs
  let (minute, r) ← readTwo? ':' r
  whole? [hour, minute] r (hour < 24 && minute < 60)

def readMoment? (cs : List Char) : Option (List Nat) := do
  let (year, r) ← readYear? cs
  let (month, r) ← readTwo? '-' r
  let (day, r) ← readTwo? '-' r
  let (hour, r) ← (behind? 'T' r).bind (someDigits? 2 2)
  let (minute, r) ← readTwo? ':' r
  whole? [year, month, day, hour, minute] r
    (Calendar.hasDay year month day && hour < 24 && minute < 60)

/-- A year and a week, before the year is looked at. -/
def readWeek? (cs : List Char) : Option (List Nat) := do
  let (year, r) ← readYear? cs
  let r ← behind? '-' r
  let (week, r) ← readTwo? 'W' r
  whole? [year, week] r (1 ≤ year)

/-- The year has this week. A year whose last day lies in the first week of the next is taken to have
fifty-three of them. -/
def hasWeek (year week : Nat) : Bool :=
  let last := Calendar.lastWeek year
  1 ≤ week && week ≤ (if last == 1 then 53 else last)

/-- A value in a field of this kind. -/
def measure? (kind : String) (value : Option AttrValue) : Except Refusal (Option Measure) :=
  match value with
  | none => .ok none
  | some v =>
    let cs := v.joined.toList
    match kind with
    | "date" => .ok ((readDay? cs).map .parts)
    | "month" => .ok ((readMonth? cs).map .parts)
    | "time" => .ok ((readTime? cs).map .parts)
    | "datetime-local" => .ok ((readMoment? cs).map .parts)
    | "number" | "range" => .ok ((readNumber? cs).map .number)
    | "week" =>
      match readWeek? cs with
      | some [year, week] =>
        if year < 1000 || 9999 < year then .error .noCalendar
        else .ok (if hasWeek year week then some (.parts [year, week]) else none)
      | _ => .ok none
    | _ => .ok none

/-- The value lies outside the bounds. -/
def breaks (kind : String) (least most : Option Measure) (value : Measure) : Bool :=
  let below := least.any value.less
  let above := most.any fun m => m.less value
  match least, most with
  | some l, some m => if kind == "time" && m.less l then below && above else below || above
  | _, _ => below || above

/-- Whether a field's value lies within its bounds; `none` if it has none. -/
def withinBounds? (e : Element) : Except Refusal (Option Bool) := do
  if (attribute? e "type").isNone then throw .noKind
  let kind := keyword e "type"
  let least ← measure? kind (attribute? e "min")
  let most ← measure? kind (attribute? e "max")
  if least.isNone && most.isNone then return none
  match ← measure? kind (attribute? e "value") with
  | none => return some true
  | some value => return some !(breaks kind least most value)

end StickerPages.Markup.Selector
