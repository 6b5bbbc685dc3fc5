import StickerPages.Calendar
import StickerPages.Value
import StickerPages.Yaml.Number

/-!
# Dates in YAML

A date is a day, `2024-01-02`, or a moment, `2024-01-02 03:04:05`, perhaps with a fraction of a second
and a distance from universal time. A day has two digits for the month and for the day of the month; a
moment may do with one. `Date.read?` says which plain texts are dates, whether or not the calendar has
them; `Date.isReal` says that it has.
-/

namespace StickerPages.Yaml

open Text (someDigits? behind?)

/-- A distance from universal time in minutes. -/
structure Zone where
  west : Bool
  minutes : Nat
deriving DecidableEq, Repr

/-- The time of day of a moment. -/
structure Clock where
  hour : Nat
  minute : Nat
  second : Nat
  micros : Nat
  zone : Option Zone
deriving DecidableEq, Repr

/-- A day or a moment. -/
structure Date where
  year : Nat
  month : Nat
  day : Nat
  clock : Option Clock
deriving DecidableEq, Repr

/-! ## Reading -/

/-- The distance from universal time; nothing is no distance at all. -/
def zone? (cs : List Char) : Option (Option Zone) :=
  match cs.dropWhile fun c => c == ' ' || c == '\t' with
  | [] => if cs.isEmpty then some none else none
  | ['Z'] => some (some ⟨false, 0⟩)
  | c :: r =>
    if c == '+' || c == '-' then do
      let (hours, r) ← someDigits? 1 2 r
      match r with
      | [] => return some ⟨c == '-', hours * 60⟩
      | _ =>
        let (minutes, r) ← someDigits? 2 2 (← behind? ':' r)
        if r.isEmpty then return some ⟨c == '-', hours * 60 + minutes⟩ else none
    else none

/-- A fraction of a second in millionths: its first six digits. -/
def micros (ds : List Char) : Nat :=
  let six := (ds ++ List.replicate 6 '0').take 6
  (Text.number? 10 six).getD 0

/-- A time of day. -/
def clock? (cs : List Char) : Option Clock := do
  let (hour, r) ← someDigits? 1 2 cs
  let (minute, r) ← someDigits? 2 2 (← behind? ':' r)
  let (second, r) ← someDigits? 2 2 (← behind? ':' r)
  let (fs, r) := match r with
    | '.' :: r => (r.takeWhile Char.isDigit, r.dropWhile Char.isDigit)
    | r => ([], r)
  return ⟨hour, minute, second, micros fs, ← zone? r⟩

/-- What stands between a day and a time of day: the letter T, or blanks. -/
def behindDay? (cs : List Char) : Option (List Char) :=
  match cs with
  | 'T' :: r => some r
  | 't' :: r => some r
  | c :: _ => if c == ' ' || c == '\t' then some (cs.dropWhile fun c => c == ' ' || c == '\t') else none
  | [] => none

/-- A day with at least so many digits for month and day, and what follows it. -/
def day? (least : Nat) (cs : List Char) : Option (Nat × Nat × Nat × List Char) := do
  let (year, r) ← someDigits? 4 4 cs
  let (month, r) ← someDigits? least 2 (← behind? '-' r)
  let (day, r) ← someDigits? least 2 (← behind? '-' r)
  return (year, month, day, r)

/-- A day alone. -/
def dayAlone? (least : Nat) (cs : List Char) : Option Date := do
  let (year, month, day, r) ← day? least cs
  if r.isEmpty then return ⟨year, month, day, none⟩ else none

/-- A moment. -/
def moment? (cs : List Char) : Option Date := do
  let (year, month, day, r) ← day? 1 cs
  return ⟨year, month, day, some (← clock? (← behindDay? r))⟩

/-- A plain text that is a date. -/
def Date.read? (cs : List Char) : Option Date := (dayAlone? 2 cs).or (moment? cs)

/-- A text that is called a date; a day may do with one digit too. -/
def Date.readMarked? (cs : List Char) : Option Date := (dayAlone? 1 cs).or (moment? cs)

/-! ## The calendar -/

/-- The time of day is on the clock, and the distance from universal time is less than a day. -/
def Clock.isReal (c : Clock) : Bool :=
  c.hour < 24 && c.minute < 60 && c.second < 60 &&
    (match c.zone with
    | some z => z.minutes < 24 * 60
    | none => true)

/-- The date is in the calendar. -/
def Date.isReal (d : Date) : Bool :=
  Calendar.hasDay d.year d.month d.day &&
    (match d.clock with
    | some c => c.isReal
    | none => true)

/-! ## Writing -/

/-- A number with zeros in front. -/
def padded (width n : Nat) : String :=
  let ds := toString n
  String.ofList (List.replicate (width - ds.length) '0') ++ ds

/-- A distance from universal time as written behind a moment. -/
def Zone.plain (z : Zone) : String :=
  (if z.west && z.minutes != 0 then "-" else "+") ++ padded 2 (z.minutes / 60) ++ ":" ++
    padded 2 (z.minutes % 60)

/-- A distance from universal time as shown: in days and seconds. -/
def Zone.shown (z : Zone) : String :=
  if z.minutes == 0 then "datetime.timezone.utc"
  else
    let span := if z.west then
        "days=-1, seconds=" ++ toString (86400 - z.minutes * 60)
      else "seconds=" ++ toString (z.minutes * 60)
    "datetime.timezone(datetime.timedelta(" ++ span ++ "))"

/-- The date as a text of its own. -/
def Date.plain (d : Date) : String :=
  let day := padded 4 d.year ++ "-" ++ padded 2 d.month ++ "-" ++ padded 2 d.day
  match d.clock with
  | none => day
  | some c =>
    day ++ " " ++ padded 2 c.hour ++ ":" ++ padded 2 c.minute ++ ":" ++ padded 2 c.second ++
      (if c.micros == 0 then "" else "." ++ padded 6 c.micros) ++
      (match c.zone with
      | some z => z.plain
      | none => "")

/-- The parts of a time of day as shown: seconds only if something follows or they are not zero. -/
def Clock.shownParts (c : Clock) : List String :=
  [toString c.hour, toString c.minute] ++
    (if c.micros != 0 then [toString c.second, toString c.micros]
    else if c.second != 0 then [toString c.second]
    else []) ++
    (match c.zone with
    | some z => ["tzinfo=" ++ z.shown]
    | none => [])

/-- The date as shown inside a list. -/
def Date.shown (d : Date) : String :=
  let day := [toString d.year, toString d.month, toString d.day]
  match d.clock with
  | none => "datetime.date(" ++ ", ".intercalate day ++ ")"
  | some c => "datetime.datetime(" ++ ", ".intercalate (day ++ c.shownParts) ++ ")"

/-- The date as a scalar. -/
def Date.scalar (d : Date) : Scalar :=
  .stamp (if d.clock.isSome then "datetime" else "date") d.plain d.shown

end StickerPages.Yaml
