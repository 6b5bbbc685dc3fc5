import StickerPages.Disk
import StickerPages.Settings.App
import StickerPages.Settings.Merge
import StickerPages.Yaml.Reader

/-!
# Configuration files

A configuration file is laid over an example file in the same folder, which holds the defaults of an
installation. There need not be either of them. The file is checked before it is read, and a fault in
it is an answer of its own; an example that cannot be read is only reported.
-/

namespace StickerPages.Settings

/-- The name of the file with the defaults. -/
def exampleName : String := "config-example.yaml"

/-- The file cannot be opened, or breaks the grammar; other faults concern what is written in it. -/
def FileFault.isUnreadable : FileFault → Bool
  | .disk .missing => true
  | .disk .isFolder => true
  | .yaml .malformed => true
  | _ => false

/-- The data in a file; whatever does not count as present is an empty map. -/
def readData (d : Disk) (p : Path) : Except FileFault Value := do
  let s ← (d.readText p).mapError .disk
  let v ← (Yaml.read s).mapError .yaml
  return v.orElse (.map [])

/-- A fault of the configuration file itself. -/
def Fault.ofFile (path : String) (f : FileFault) : Fault :=
  if f.isUnreadable then .unreadable path f.message else .unfit f

/-- The data laid over the example's, if both are maps. -/
def overExample (example_ data : Value) : Value :=
  match example_, data with
  | .map es, .map fs => .map (merge es fs)
  | _, data => data

/-- Lays the data of a configuration file over its example; an unreadable example is reported. -/
def withExample (d : Disk) (p : Path) (data : Value) : Log × Except Fault Value :=
  let e := p.parent.child exampleName
  if d.holds e && e.writtenOut? != p.writtenOut? then
    match readData d e with
    | .ok base => ([], .ok (overExample base data))
    | .error f =>
      if f.isUnreadable then
        ([⟨.warning, "預設配置 " ++ e.written ++ " 無法讀取，略過: " ++ f.message⟩], .ok data)
      else ([], .error (.unfit f))
  else ([], .ok data)

/-- Checks data and reads the configuration in it. -/
def readChecked (env : Environment) (data : Value) : Log × Except Fault App :=
  match check data with
  | .error f => ([], .error f)
  | .ok remarks =>
    match data with
    | .map es =>
      let (a, log) := readApp es
      (remarks ++ log, a.under env)
    | _ => ([], .error .notMap)

/-- The configuration in a file. Without the file it is the default one. -/
def App.ofFile (d : Disk) (env : Environment) (path : String) : Log × Except Fault App :=
  let p := Path.ofString path
  if !d.holds p then
    ([⟨.warning, "配置檔案不存在: " ++ path ++ "，使用預設配置"⟩], .ok (App.default env))
  else
    match readData d p with
    | .error f => ([], .error (.ofFile path f))
    | .ok data =>
      match withExample d p data with
      | (log, .error f) => (log, .error f)
      | (log, .ok data) =>
        let (more, a) := readChecked env data
        (log ++ more, a)

end StickerPages.Settings
