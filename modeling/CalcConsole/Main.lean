import CalcConsole.Program
/-! # The program on a machine

Reads the files that a run can look at into a `Disk`, runs the program on it, and writes back what has changed.  There
is no network here, so every request is refused. -/
namespace CalcConsole
namespace Machine

def variableNames : List String :=
  Setting.all.map Setting.envName ++ [Program.filterVariable, Arguments.passwordVariable]

def surroundings : IO Surroundings := do
  let environment ← variableNames.filterMapM fun name => do
    return (← IO.getEnv name).map (name, ·)
  return ⟨(← IO.getEnv "HOME").getD "/", (← IO.currentDir).toString, environment⟩

def placeText (p : Place) : String := "/" ++ "/".intercalate p

/-- What stands at a place, as far as it can be read.  What has no content to read is a folder. -/
def entry? (p : Place) : IO (Option Entry) := do
  try
    return some (.file (← IO.FS.readBinFile (placeText p)) Config.fileMode)
  catch e => match e with
    | .inappropriateType .. => return some .folder
    | _ => return none

def way (s : Surroundings) (path : String) : List Place :=
  let segments := Disk.absolute s.place path
  (List.range segments.length).map fun n => segments.take (n + 1)

def snapshot (s : Surroundings) (paths : List String) : IO Disk := do
  let mut d := Disk.empty
  for p in paths.flatMap (way s) do
    if let some e ← entry? p then d := d.put p e
  return d

def rights (mode : Nat) : IO.AccessRight := ⟨mode.testBit 2, mode.testBit 1, mode.testBit 0⟩

def setMode (p : Place) (mode : Nat) : IO Unit :=
  IO.setAccessRights (placeText p) ⟨rights (mode / 64), rights (mode / 8), rights mode⟩

/-- Makes a place on the machine what it is on the new disk, if it was something else. -/
def restore (before : Disk) (p : Place) (e : Entry) : IO Unit :=
  match before.at? p, e with
  | some .folder, .folder => return
  | _, .folder => IO.FS.createDirAll (placeText p)
  | some (.file old oldMode), .file content mode => do
    unless old == content do IO.FS.writeBinFile (placeText p) content
    if oldMode ≠ mode then setMode p mode
  | _, .file content mode => do
    IO.FS.writeBinFile (placeText p) content
    setMode p mode

/-- Writes back what has changed, folders first. -/
def save (before after : Disk) : IO Unit := do
  for (p, e) in after.entries do
    if let .folder := e then restore before p e
  for (p, e) in after.entries do
    if let .file _ _ := e then restore before p e

def filesOf (s : Surroundings) : IO (List String) := do
  let settings := [s.globalFile, s.projectFile]
  let (c, _) := Config.load s (← snapshot s settings)
  return settings ++ [SessionFile.path s.home c.sessionFolder c.sessionName]

end Machine
end CalcConsole

open CalcConsole in
def main (words : List String) : IO UInt32 := do
  let s ← Machine.surroundings
  let before ← Machine.snapshot s (← Machine.filesOf s)
  let (e, k) := Program.run s words ⟨before, ⟨[], .refused, []⟩, []⟩
  Machine.save before k.store
  IO.print e.out
  IO.eprint e.err
  return UInt32.ofNat e.code
