/-!
# Files

A disk holds files and folders below one folder, the place where the program was started. Nothing is
known of what lies outside it, except that there are folders on the way.

A path is a list of steps. Following it on a disk needs a folder in front of every step, so
`d/../a` leads nowhere if there is no folder `d`; written out, without a disk, it is `a` in any case.
-/

namespace StickerPages

/-- A path as written, without empty steps and without `.`. -/
structure Path where
  absolute : Bool := false
  steps : List String := []
deriving DecidableEq, Repr

namespace Path

/-- Reads a path. -/
def ofString (s : String) : Path where
  absolute := s.startsWith "/"
  steps := ((s.toList.splitOn '/').map String.ofList).filter fun x => !(x.isEmpty || x == ".")

/-- Writes a path; the path without steps is a single point. -/
def written (p : Path) : String :=
  if p.absolute then "/" ++ "/".intercalate p.steps
  else if p.steps.isEmpty then "."
  else "/".intercalate p.steps

/-- The folder that a path lies in, as written. -/
def parent (p : Path) : Path := { p with steps := p.steps.dropLast }

/-- The path one step on. -/
def child (p : Path) (name : String) : Path := { p with steps := p.steps ++ [name] }

/-- The last step. -/
def name (p : Path) : String := p.steps.getLast?.getD ""

/-- A name without its ending. The ending begins with the last point, if that is neither the first
nor the last character. -/
def stem (name : String) : String :=
  let cs := name.toList
  let ending := (cs.reverse.takeWhile (· != '.')).length + 1
  if cs.contains '.' && 1 < ending && ending < cs.length then String.ofList (cs.take (cs.length - ending))
  else name

/-- The path with another ending. -/
def withEnding (p : Path) (ending : String) : Path := p.parent.child (stem p.name ++ ending)

/-- One step of a path written out; going up from the starting folder leads outside. -/
def writeOutStep (r : Option (List String)) (step : String) : Option (List String) :=
  match r with
  | none => none
  | some ns => if step == ".." then (if ns.isEmpty then none else some ns.dropLast) else some (ns ++ [step])

/-- The steps from the starting folder, without `..`; nothing if the path leads outside. -/
def writtenOut? (p : Path) : Option (List String) :=
  if p.absolute then none else p.steps.foldl writeOutStep (some [])

end Path

/-- Files and folders, by the steps that lead to them. -/
structure Disk where
  /-- The name of the starting folder. -/
  root : String := "."
  files : List (List String × ByteArray) := []
  folders : List (List String) := []

/-- Where a path leads. -/
inductive Disk.Location where
  | inside (steps : List String)
  /-- A folder around the starting folder. -/
  | outside
deriving DecidableEq, Repr

/-- Why a file cannot be used. -/
inductive Disk.Fault where
  | missing
  | isFolder
  | notUtf8
deriving DecidableEq, Repr

namespace Disk

/-- A folder lies here. -/
def isFolder (d : Disk) (steps : List String) : Bool := steps.isEmpty || d.folders.contains steps

/-- The file that lies here. -/
def file? (d : Disk) (steps : List String) : Option ByteArray := d.files.lookup steps

/-- Follows steps from a location. -/
def follow (d : Disk) : Location → List String → Option Location
  | p, [] => some p
  | .inside ns, s :: r =>
    if !d.isFolder ns then none
    else if s == ".." then follow d (if ns.isEmpty then .outside else .inside ns.dropLast) r
    else follow d (.inside (ns ++ [s])) r
  | .outside, s :: r => if s == ".." then follow d .outside r else none

/-- Follows a path. -/
def locate (d : Disk) (p : Path) : Option Location :=
  d.follow (if p.absolute then .outside else .inside []) p.steps

/-- Something lies at the end of a path. -/
def holds (d : Disk) (p : Path) : Bool :=
  match d.locate p with
  | some (.inside ns) => d.isFolder ns || (d.file? ns).isSome
  | some .outside => true
  | none => false

/-- Line ends of every kind as line feeds. -/
def unifyLines : List Char → List Char
  | [] => []
  | '\r' :: '\n' :: r => '\n' :: unifyLines r
  | c :: r => (if c == '\r' then '\n' else c) :: unifyLines r

/-- The text in a file. -/
def readText (d : Disk) (p : Path) : Except Fault String :=
  match d.locate p with
  | some (.inside ns) =>
    if d.isFolder ns then .error .isFolder
    else
      match d.file? ns with
      | none => .error .missing
      | some bytes =>
        match String.fromUTF8? bytes with
        | some s => .ok (String.ofList (unifyLines s.toList))
        | none => .error .notUtf8
  | some .outside => .error .isFolder
  | none => .error .missing

/-- Writes one file into a list of files. -/
def putFile (files : List (List String × ByteArray)) (steps : List String) (bytes : ByteArray) :
    List (List String × ByteArray) :=
  if files.any (·.1 == steps) then files.map fun f => if f.1 == steps then (steps, bytes) else f
  else files ++ [(steps, bytes)]

/-- Writes a file into a folder that is there. -/
def write (d : Disk) (p : Path) (bytes : ByteArray) : Except Fault Disk :=
  match d.locate p with
  | some (.inside ns) =>
    if d.isFolder ns then .error .isFolder
    else if !d.isFolder ns.dropLast then .error .missing
    else .ok { d with files := putFile d.files ns bytes }
  | some .outside => .error .isFolder
  | none => .error .missing

/-- Adds the folders on the way to some steps, those steps included. -/
def makeFolders (d : Disk) (steps : List String) : Disk :=
  { d with folders := (List.range steps.length).foldl (fun fs n =>
      let f := steps.take (n + 1)
      if fs.contains f then fs else fs ++ [f]) d.folders }

/-- Puts a file at some steps, together with the folders on the way. -/
def put (d : Disk) (steps : List String) (bytes : ByteArray) : Disk :=
  let d := d.makeFolders steps.dropLast
  { d with files := putFile d.files steps bytes }

/-- Takes a file away. -/
def delete (d : Disk) (steps : List String) : Disk :=
  { d with files := d.files.filter (·.1 != steps) }

/-- The full name of some steps. -/
def fullName (d : Disk) (steps : List String) : String := "/".intercalate (d.root :: steps)

/-- The files that are new since another disk, or not the same. -/
def changesSince (d before : Disk) : List (List String × ByteArray) :=
  d.files.filter fun f => !((before.file? f.1).map ByteArray.toList == some f.2.toList)

end Disk

end StickerPages
