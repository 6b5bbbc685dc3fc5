/-!
# Reports

What the library reports while it works: lines with a level, in the order in which they were made.
-/

namespace StickerPages

/-- How grave a report is. -/
inductive Level where
  | notSet
  | debug
  | info
  | warning
  | error
  | critical
deriving DecidableEq, Repr

/-- The level as a number: the graver, the larger. -/
def Level.weight : Level → Nat
  | .notSet => 0
  | .debug => 10
  | .info => 20
  | .warning => 30
  | .error => 40
  | .critical => 50

/-- The level's name. -/
def Level.name : Level → String
  | .notSet => "NOTSET"
  | .debug => "DEBUG"
  | .info => "INFO"
  | .warning => "WARNING"
  | .error => "ERROR"
  | .critical => "CRITICAL"

/-- One report. -/
structure Report where
  level : Level
  text : String
deriving DecidableEq, Repr

/-- Reports in the order in which they were made. -/
abbrev Log := List Report

/-- The reports that are at least as grave as `least`. -/
def Log.from (least : Level) (log : Log) : Log :=
  log.filter fun r => least.weight ≤ r.level.weight

end StickerPages
