import RateHerald.CommandLine.Session

/-!
# The program

The program loads what a session may look at, runs the session, writes what it made, and prints what
it leaves.

## Main declarations

* `main` is the program.
-/

namespace RateHerald.Program

/-- The path of a place, absolute or not. -/
def pathOf (isAbsolute : Bool) (place : Place) : String :=
  (if isAbsolute then "/" else "") ++ "/".intercalate place

/-- What the machine has under a place. -/
def nodeAt (isAbsolute : Bool) (place : Place) : IO (Option Node) := do
  let path := (← IO.currentDir) / pathOf isAbsolute place
  if ← path.isDir then return some .directory
  if ← path.pathExists then return some (.file (← IO.FS.readFile path))
  return none

/-- Loads a directory, all directories on the way, and what lies directly in it. -/
def load (isAbsolute : Bool) (place : Place) : IO Disk := do
  let mut places := (List.range place.length).map fun n => place.take (n + 1)
  let path := (← IO.currentDir) / pathOf isAbsolute place
  if ← path.isDir then
    places := places ++ (← path.readDir).toList.map fun entry => place ++ [entry.fileName]
  let entries ← places.filterMapM fun place => do
    return (← nodeAt isAbsolute place).map fun node => (place, node)
  return ⟨entries⟩

/-- Writes what is new on a disk. -/
def save (isAbsolute : Bool) (old new : Disk) : IO Unit := do
  for (place, node) in new.entries do
    unless old.entries.contains (place, node) do
      match node with
      | .directory => IO.FS.createDirAll (pathOf isAbsolute place)
      | .file text => IO.FS.writeFile (pathOf isAbsolute place) text

end RateHerald.Program

open RateHerald Program in
/-- Runs the session that the arguments and the environment ask for. -/
def main (words : List String) : IO UInt32 := do
  let values ← Settings.variableNames.mapM fun name => do return (name, ← IO.getEnv name)
  let lookup := fun name => (values.lookup name).join
  let directory := (Session.directory? lookup words).getD ""
  let isAbsolute := directory.startsWith "/"
  let before ← load isAbsolute (Disk.placeOf directory)
  let (outcome, after) := Session.run lookup words Outside.offline before ()
  save isAbsolute before after
  outcome.lines.forM IO.println
  IO.eprint outcome.complaint
  return outcome.code.toUInt32
