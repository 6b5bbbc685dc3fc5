import StickerPages.Rendering

/-!
# The program

Reads the files that a command line names, renders, and writes what has changed. There is no way to a
server here, so a catalog that would have to be fetched is the built-in one.
-/

namespace StickerPages

/-- A file's bytes, if it can be read. -/
def readFile? (path : String) : IO (Option ByteArray) := do
  try
    return some (← IO.FS.readBinFile path)
  catch _ => return none

/-- A disk with the files of these paths. -/
def diskWith (paths : List String) : IO Disk := do
  let mut disk : Disk := {}
  for path in paths do
    match (Path.ofString path).writtenOut? with
    | none => pure ()
    | some steps =>
      disk := disk.makeFolders steps.dropLast
      if let some bytes ← readFile? path then
        disk := disk.put steps bytes
  return disk

/-- The files that a command line can touch. -/
def pathsOf (args : List String) : List String :=
  let config := (args[3]?).getD "config.yaml"
  let example_ := (Path.ofString config).parent.child Settings.exampleName
  args.take 3 ++ [config, example_.written]

/-- The environment variables that count. -/
def readEnvironment : IO Settings.Environment := do
  let mut env : Settings.Environment := []
  for name in ["STICKER_CONFIG_URL", "STICKER_LOG_LEVEL"] do
    if let some v ← IO.getEnv name then
      env := env ++ [(name, v)]
  return env

end StickerPages

open StickerPages in
/-- Renders as the command line asks. -/
def main (args : List String) : IO Unit := do
  let disk ← diskWith (pathsOf args)
  let desk : Rendering.Desk := { disk, env := ← readEnvironment, site := { base := "" } }
  let desk := Rendering.run args desk
  for file in desk.disk.changesSince disk do
    IO.FS.writeBinFile ("/".intercalate file.1) file.2
  IO.print desk.printed
  for r in desk.log do
    IO.eprintln (r.level.name ++ " " ++ r.text)
