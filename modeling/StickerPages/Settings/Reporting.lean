import StickerPages.Log
import StickerPages.Settings.Basic
import StickerPages.Text.Blank
import StickerPages.Text.Case

/-!
# How much is reported, and how

The level of reports is set by name. A name that is none sets the usual level, unless it is the name
of something else; then it is refused. A format is a pattern with fields such as `%(message)s`; one
without any field is refused.
-/

namespace StickerPages.Settings

/-- The level of this name; some levels have two. -/
def levelNamed? (name : String) : Option Level :=
  [("NOTSET", Level.notSet), ("DEBUG", .debug), ("INFO", .info), ("WARNING", .warning),
   ("WARN", .warning), ("ERROR", .error), ("CRITICAL", .critical), ("FATAL", .critical)].lookup name

/-- Names of things that have to do with reports and are no levels. -/
def otherNames : List String := ["BASIC_FORMAT", "_STYLES"]

/-- How reports are made. -/
structure Reporting where
  level : Level := .info
  format : String := ""
deriving DecidableEq, Repr

/-- Why reporting cannot be set up. -/
inductive Reporting.Fault where
  /-- The configuration is no map. -/
  | notMap
  /-- The format is no text. -/
  | formatNotText
  /-- The format has no field. -/
  | noField
  /-- The level has the name of something else. -/
  | notLevel (name : String)
deriving DecidableEq, Repr

/-! ## Formats -/

/-- The letters that end a field, besides the percent sign. -/
def fieldKinds : List Char := "diouxefgcrsa%".toList

/-- A width or a precision at the start is passed over: a star, or digits. -/
def dropSize (cs : List Char) : List Char :=
  match cs with
  | '*' :: r => r
  | cs => cs.dropWhile Char.isDigit

/-- A precision at the start is passed over: a point and a size. -/
def dropPrecision (cs : List Char) : List Char :=
  match cs with
  | '.' :: '*' :: r => r
  | '.' :: d :: r => if d.isDigit then r.dropWhile Char.isDigit else cs
  | cs => cs

/-- A character of a field's name. -/
def isFieldNameChar (c : Char) : Bool := c.isAlphanum || c == '_' || 0x80 ≤ c.toNat

/-- A field stands at the start. -/
def beginsField (cs : List Char) : Bool :=
  match cs with
  | '%' :: '(' :: r =>
    match r.dropWhile isFieldNameChar with
    | ')' :: rest =>
      !(r.takeWhile isFieldNameChar).isEmpty &&
        ((dropPrecision (dropSize (rest.dropWhile "#0+ -".toList.contains))).head?.map
          fun c => fieldKinds.contains c.toLower).getD false
    | _ => false
  | _ => false

/-- A field stands somewhere. -/
def hasField : List Char → Bool
  | [] => false
  | c :: r => beginsField (c :: r) || hasField r

/-- The format of reports that a setting stands for. -/
def formatOf (v : Value) : Except Reporting.Fault String :=
  if !v.truthy then .ok "%(message)s"
  else
    match v with
    | .scalar (.text s) => if hasField s.toList then .ok s else .error .noField
    | _ => .error .formatNotText

/-! ## Setting up -/

/-- The part of a configuration that is about reports: its system section, or all of it. -/
def reportingEntries (es : Entries) : Entries :=
  match Entries.at? es "system" with
  | some (.map system) => system
  | _ => es

/-- The level that a setting stands for. -/
def levelOf (v : Value) : Except Reporting.Fault Level :=
  let name := v.plain.capitalLetters
  if otherNames.contains name then .error (.notLevel name)
  else .ok ((levelNamed? name).getD .info)

/-- How a configuration wants reports to be made. -/
def reportingOf (es : Entries) : Except Reporting.Fault Reporting := do
  let system := reportingEntries es
  let format ← formatOf ((Entries.at? system "log_format").getD (System.logFormat {}))
  let level ← levelOf ((Entries.at? system "log_level").getD (System.logLevel {}))
  return { level, format }

/-- Sets reporting up by any value; there has to be a map. -/
def reportingOfValue (v : Value) : Except Reporting.Fault Reporting :=
  match v with
  | .map es => reportingOf es
  | _ => .error .notMap

/-- The level for what other libraries report. -/
def Reporting.libraryLevel : Level := .warning

/-- The report that reporting has been set up. -/
def Reporting.announcement (r : Reporting) : Report :=
  ⟨.info, "Logger initialized → level: " ++ r.level.name⟩

end StickerPages.Settings
