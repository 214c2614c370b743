import RateHerald.Records.StoreError
import RateHerald.Url.Form

/-!
# The disk

A disk holds files and directories under paths. A path is a list of names from the root down; its
text has slashes between the names, and empty names and points count for nothing. Every action looks
at the directories on the way first and refuses if one of them is absent, is a file, or has a name
that is too long.

## Main declarations

* `Disk`, `Disk.node?` and `Disk.locate?` say what is where.
* `Disk.makeDirectory`, `Disk.makeDirectories`, `Disk.create`, `Disk.write`, `Disk.save`,
  `Disk.remove`, `Disk.list` and `Disk.below` are the actions.
* `Disk.placeOf` takes the names from the text of a path, `Disk.join` puts a name behind a path.
-/

namespace RateHerald

/-- What is under a path. -/
inductive Node where
  /-- A directory. -/
  | directory
  /-- A file and what it holds. -/
  | file (text : String)
deriving Repr, DecidableEq

/-- Names from the root down. -/
abbrev Place := List String

/-- Files and directories under paths; the root is always there. -/
structure Disk where
  /-- What is on the disk, in the order in which it was made. -/
  entries : List (Place × Node)
deriving Repr, DecidableEq

namespace Disk

/-- A disk with nothing but its root. -/
def empty : Disk :=
  ⟨[]⟩

/-- What is under a path. -/
def node? (d : Disk) (place : Place) : Option Node :=
  if place = [] then some .directory else d.entries.lookup place

/-- The longest name, in bytes. -/
def maxNameLength : Nat := 255

/-- What is under a path whose beginning `done` is known, all directories on the way looked at. -/
def locateFrom (d : Disk) (done : Place) : Place → Except DiskError (Option Node)
  | [] => .ok (d.node? done)
  | name :: rest =>
    match d.node? done with
    | none => .error .notFound
    | some (.file _) => .error .notDirectory
    | some .directory =>
      if name.utf8ByteSize > maxNameLength then .error .nameTooLong
      else locateFrom d (done ++ [name]) rest

/-- What is under a path, all directories on the way looked at. -/
def locate? (d : Disk) (place : Place) : Except DiskError (Option Node) :=
  d.locateFrom [] place

/-- The disk with something more under a path. -/
def put (d : Disk) (place : Place) (node : Node) : Disk :=
  ⟨d.entries ++ [(place, node)]⟩

/-- Makes a directory in a directory. -/
def makeDirectory (d : Disk) (place : Place) : Except DiskError Disk :=
  match d.locate? place with
  | .error e => .error e
  | .ok (some _) => .error .exists
  | .ok none => .ok (d.put place .directory)

/-- Makes the directories under a path whose beginning `done` is there, where they are absent. -/
def makeDirectoriesFrom (d : Disk) (done : Place) : Place → Except DiskError Disk
  | [] => .ok d
  | name :: rest =>
    let place := done ++ [name]
    match d.locate? place with
    | .error e => .error e
    | .ok (some .directory) => makeDirectoriesFrom d place rest
    | .ok (some (.file _)) => .error (if rest.isEmpty then .exists else .notDirectory)
    | .ok none => makeDirectoriesFrom (d.put place .directory) place rest

/-- Makes all directories of a path that are absent. -/
def makeDirectories (d : Disk) (place : Place) : Except DiskError Disk :=
  d.makeDirectoriesFrom [] place

/-- Makes an empty file where nothing is. -/
def create (d : Disk) (place : Place) : Except DiskError Disk :=
  match d.locate? place with
  | .error e => .error e
  | .ok (some _) => .error .exists
  | .ok none => .ok (d.put place (.file ""))

/-- Replaces what a file holds. -/
def write (d : Disk) (place : Place) (text : String) : Disk :=
  ⟨d.entries.map fun (p, node) => if p = place then (p, .file text) else (p, node)⟩

/-- Makes a file, or replaces what it holds. -/
def save (d : Disk) (place : Place) (text : String) : Except DiskError Disk :=
  match d.locate? place with
  | .error e => .error e
  | .ok (some .directory) => .error .isDirectory
  | .ok (some (.file _)) => .ok (d.write place text)
  | .ok none => .ok (d.put place (.file text))

/-- Removes a file. -/
def remove (d : Disk) (place : Place) : Except DiskError Disk :=
  match d.locate? place with
  | .error e => .error e
  | .ok none => .error .notFound
  | .ok (some .directory) => .error .isDirectory
  | .ok (some (.file _)) => .ok ⟨d.entries.filter fun (p, _) => p ≠ place⟩

/-- The name of a path that lies directly in a directory. -/
def childName? (directory place : Place) : Option String :=
  if place.dropLast = directory then place.getLast? else none

/-- What lies directly in a directory: names and nodes, in the order in which they were made. -/
def list (d : Disk) (place : Place) : Except DiskError (List (String × Node)) :=
  match d.locate? place with
  | .error e => .error e
  | .ok none => .error .notFound
  | .ok (some (.file _)) => .error .notDirectory
  | .ok (some .directory) =>
    .ok (d.entries.filterMap fun (p, node) => (childName? place p).map fun name => (name, node))

/-- All that lies below a directory: the way there and what a file holds. The way to a directory
ends in a slash. -/
def below (d : Disk) (directory : Place) : List (String × Option String) :=
  d.entries.filterMap fun (place, node) =>
    if directory.isPrefixOf place && directory.length < place.length then
      let way := "/".intercalate (place.drop directory.length)
      match node with
      | .directory => some (way ++ "/", none)
      | .file text => some (way, some text)
    else none

/-- The names in the text of a path. -/
def placeOf (path : String) : Place :=
  ((Url.Form.splitAt '/' path.toList).filter fun name => !name.isEmpty && name != ['.']).map
    String.ofList

/-- The text of a path with a name behind it. -/
def join (path name : String) : String :=
  if path.isEmpty || path.endsWith "/" then path ++ name else path ++ "/" ++ name

end Disk

end RateHerald
