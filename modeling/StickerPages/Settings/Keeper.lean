import StickerPages.Settings.Reporting
import StickerPages.Settings.Source

/-!
# Configurations at hand

A keeper answers for configuration files and keeps what it read last, so that a file is read once. It
keeps two things: the data of a file as a map, and the checked configuration of a file. Both are kept
under one path, the one that was read last by either way; asking for the same path again is answered
from what is kept.

Every answer carries a number. Two answers have the same number exactly when the second is the first
one, kept.
-/

namespace StickerPages.Settings

/-- An answer that is known again by its number. -/
structure Kept (α : Type) where
  number : Nat
  value : α

/-- What answers for configuration files. -/
structure Keeper where
  disk : Disk
  env : Environment := []
  entries : Option (Kept Entries) := none
  app : Option (Kept App) := none
  /-- The path of what is kept. -/
  path : Option String := none
  /-- The number of the next answer that is not kept yet. -/
  nextNumber : Nat := 0
  log : Log := []

namespace Keeper

/-- Adds reports. -/
def report (k : Keeper) (log : Log) : Keeper := { k with log := k.log ++ log }

/-- Makes an answer. -/
def answer {α : Type} (k : Keeper) (value : α) : Keeper × Kept α :=
  ({ k with nextNumber := k.nextNumber + 1 }, ⟨k.nextNumber, value⟩)

/-- Forgets everything. -/
def clear (k : Keeper) : Keeper := { k with entries := none, app := none, path := none }

/-! ## As a map -/

/-- The map in a file; a file that is not there holds an empty one. -/
def readEntries (d : Disk) (p : Path) : Except FileFault Entries :=
  if !d.holds p then .ok []
  else
    match readData d p with
    | .ok (.map es) => .ok es
    | .ok _ => .error .notMap
    | .error f => .error f

/-- The steps to the example beside a file; nothing if it lies outside, or is the file itself. -/
def exampleBeside? (p : Path) : Option (List String) := do
  let steps ← p.writtenOut?
  if steps.isEmpty then none
  let e := steps.dropLast ++ [exampleName]
  if e == steps then none else some e

/-- The map in the example beside a file, with a report if it cannot be read. -/
def defaults (d : Disk) (p : Path) : Entries × Log :=
  match exampleBeside? p with
  | none => ([], [])
  | some e =>
    match readEntries d ⟨false, e⟩ with
    | .ok es => (es, [])
    | .error f => ([], [⟨.warning, "讀取預設配置 " ++ d.fullName e ++ " 失敗: " ++ f.message⟩])

/-- Reads a file's map, laid over its example; the flag says whether it is to be kept. -/
def readMap (d : Disk) (path : String) : Entries × Bool × Log :=
  let p := Path.ofString path
  let (base, log) := defaults d p
  match readEntries d p with
  | .error f =>
    (base, false, log ++ [⟨.error, "讀取配置 " ++ path ++ " 失敗，只使用預設配置: " ++ f.message⟩])
  | .ok es =>
    let absent : Log := if d.holds p then []
      else [⟨.info, "找不到配置 " ++ path ++ "，只使用預設配置"⟩]
    (merge base es, true, log ++ absent)

/-- A file's map. -/
def load (k : Keeper) (path : String) : Keeper × Kept Entries :=
  match k.entries with
  | some kept => if k.path == some path then (k, kept) else loadAnew k path
  | none => loadAnew k path
where
  /-- A file's map, read anew. -/
  loadAnew (k : Keeper) (path : String) : Keeper × Kept Entries :=
    let (es, keeps, log) := readMap k.disk path
    let (k, kept) := (k.report log).answer es
    (if keeps then { k with entries := some kept, path := some path } else k, kept)

/-- A file's map, after everything has been forgotten. -/
def reload (k : Keeper) (path : String) : Keeper × Kept Entries := k.clear.load path

/-- The value at keys inside each other. -/
def valueAt (fallback : Value) : Value → List String → Value
  | v, [] => v
  | .map es, key :: r =>
    match Entries.at? es key with
    | some v => valueAt fallback v r
    | none => fallback
  | _, _ :: _ => fallback

/-- The value at a path of keys, with points between them. -/
def get (k : Keeper) (keys path : String) (fallback : Value) : Keeper × Value :=
  let (k, kept) := k.load path
  (k, valueAt fallback (.map kept.value) ((keys.toList.splitOn '.').map String.ofList))

/-! ## As a configuration -/

/-- Reads a file's configuration; the default one if the file is at fault. -/
def appOrDefault (d : Disk) (env : Environment) (path : String) : App × Log :=
  match App.ofFile d env path with
  | (log, .ok a) => (a, log)
  | (log, .error f) =>
    (App.default env, log ++ [⟨.error, "型別安全配置載入失敗，改用預設配置: " ++ f.message⟩])

/-- A file's configuration, read anew. -/
def loadAppAnew (k : Keeper) (path : String) : Keeper × Kept App :=
  let (a, log) := appOrDefault k.disk k.env path
  let (k, kept) := (k.report log).answer a
  ({ k with app := some kept, path := some path }, kept)

/-- A file's configuration. -/
def loadApp (k : Keeper) (path : String) (anew : Bool) : Keeper × Kept App :=
  match k.app with
  | some kept => if !anew && k.path == some path then (k, kept) else k.loadAppAnew path
  | none => k.loadAppAnew path

end Keeper

end StickerPages.Settings
