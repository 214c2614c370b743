import RateHerald.Records.Collection

/-!
# Tampering

Somebody else may tamper with the directory of a collection: put files and directories into it,
remove files, or put a file where the directory should be.

## Main declarations

* `Tampering` and `Tampering.apply`.
-/

namespace RateHerald

/-- What somebody else does to the directory of a collection. -/
inductive Tampering where
  /-- Puts a file into it. -/
  | save (name text : String)
  /-- Puts a directory into it. -/
  | makeDirectory (name : String)
  /-- Removes a file from it. -/
  | remove (name : String)
  /-- Puts a file in its place. -/
  | block
deriving Repr, DecidableEq

/-- The disk after a tampering with a directory that lies in `base`. -/
def Tampering.apply (base directory : String) (d : Disk) : Tampering → Except DiskError Disk
  | .save name text => do
    let d ← d.makeDirectories (Disk.placeOf directory)
    d.save (Disk.placeOf (Disk.join directory name)) text
  | .makeDirectory name => d.makeDirectories (Disk.placeOf (Disk.join directory name))
  | .remove name => d.remove (Disk.placeOf (Disk.join directory name))
  | .block => do
    (← d.makeDirectories (Disk.placeOf base)).save (Disk.placeOf directory) ""

end RateHerald
