import RateHerald.Records.Codec
import RateHerald.Records.Disk

/-!
# Collections of records

The records of one kind are files of one directory, each under its key. A record is stored by a few
steps on the disk: the directory is made, the file is created, which only one of several writers can
do, and the record is written into it. If the record cannot be written the file is removed again, so
that the same key can be stored later. Each step may also be told to fail, so that runs of several
writers and failures of the disk can be told step by step; `Collection.store` is the run without
failures.

## Main declarations

* `Collection` is a kind of record and its directory.
* `Attempt` is a storing under way, `Attempt.next` its next step, `Attempt.finish` all its steps.
* `Collection.store` and `Collection.fetchAll`.
-/

namespace RateHerald

/-- A directory of records of one kind. -/
structure Collection (α : Type) where
  /-- The kind of the records. -/
  codec : Codec α
  /-- The path of the directory. -/
  directory : String

namespace Collection

/-- The collection of a kind of records below a directory. -/
def below {α : Type} (codec : Codec α) (base : String) : Collection α :=
  ⟨codec, Disk.join base codec.name⟩

variable {α : Type} (c : Collection α)

/-- Where the directory is. -/
def place : Place :=
  Disk.placeOf c.directory

/-- The path of the file of a record. -/
def pathOf (key : String) : String :=
  Disk.join c.directory key

/-- Where the file of a record is. -/
def placeOf (key : String) : Place :=
  c.place ++ [key]

/-- Whether a key is a plain name, which can lie nowhere but in the directory. -/
def isPlainKey (key : String) : Bool :=
  !key.isEmpty && key != "." && key != ".." &&
    key.toList.all fun ch => ch != '/' && ch != '\\' && ch.toNat != 0

/-- What the file of a record holds: the record on one line. -/
def content (item : α) : Except String String :=
  (c.codec.write item).map fun v => v.compact ++ "\n"

end Collection

/-! ## Storing step by step -/

/-- How far a storing has come. -/
inductive Attempt where
  /-- The key is to be looked at. -/
  | start
  /-- The directory is to be made. -/
  | makeDirectory
  /-- The file is to be created. -/
  | create
  /-- The record is to be written. -/
  | write
  /-- The file is to be removed, because of a failure. -/
  | cleanUp (cause : StoreError)
  /-- Nothing is left to be done. -/
  | finished (result : Except StoreError Unit)

/-- A failure of a step: the refusal of the disk and what a failed writing leaves in the file. -/
structure DiskFault where
  /-- The refusal. -/
  cause : DiskError
  /-- The part of the record that was written. -/
  written : String

namespace Attempt

variable {α : Type} (c : Collection α) (key : String) (item : α)

/-- The next step, or its failure. -/
def next (fault : Option DiskFault) (d : Disk) : Attempt → Attempt × Disk
  | .start =>
    if Collection.isPlainKey key then (.makeDirectory, d)
    else (.finished (.error (.invalidKey key)), d)
  | .makeDirectory =>
    match fault.map DiskFault.cause, d.makeDirectories c.place with
    | none, .ok d => (.create, d)
    | none, .error e => (.finished (.error (.disk "creating directory" c.directory e)), d)
    | some e, _ => (.finished (.error (.disk "creating directory" c.directory e)), d)
  | .create =>
    match fault.map DiskFault.cause, d.create (c.placeOf key) with
    | none, .ok d => (.write, d)
    | none, .error .exists => (.finished (.error (.alreadyExists key (c.pathOf key))), d)
    | none, .error e => (.finished (.error (.disk "creating file" (c.pathOf key) e)), d)
    | some e, _ => (.finished (.error (.disk "creating file" (c.pathOf key) e)), d)
  | .write =>
    match fault, c.content item with
    | _, .error text => (.cleanUp (.encode (c.pathOf key) text), d)
    | none, .ok text => (.finished (.ok ()), d.write (c.placeOf key) text)
    | some f, .ok _ =>
      (.cleanUp (.disk "writing file" (c.pathOf key) f.cause), d.write (c.placeOf key) f.written)
  | .cleanUp cause =>
    match fault.map DiskFault.cause, d.remove (c.placeOf key) with
    | none, .ok d => (.finished (.error cause), d)
    | none, .error e => (.finished (.error (.disk "removing partial file" (c.pathOf key) e)), d)
    | some e, _ => (.finished (.error (.disk "removing partial file" (c.pathOf key) e)), d)
  | .finished result => (.finished result, d)

/-- How many steps are left at most. -/
def stepsLeft : Attempt → Nat
  | .start => 5
  | .makeDirectory => 4
  | .create => 3
  | .write => 2
  | .cleanUp _ => 1
  | .finished _ => 0

/-- Every step but the last leads on. -/
theorem stepsLeft_next (fault : Option DiskFault) (d : Disk) (a : Attempt) (h : a.stepsLeft ≠ 0) :
    (a.next c key item fault d).1.stepsLeft < a.stepsLeft := by
  cases a with
  | finished result => exact absurd rfl h
  | _ => simp only [next]; split <;> simp [stepsLeft]

/-- All steps, none of which is told to fail. -/
def finish (d : Disk) (a : Attempt) : Except StoreError Unit × Disk :=
  match _h : a with
  | .finished result => (result, d)
  | .start | .makeDirectory | .create | .write | .cleanUp _ =>
    finish (a.next c key item none d).2 (a.next c key item none d).1
termination_by a.stepsLeft
decreasing_by
  all_goals
    subst _h
    exact stepsLeft_next c key item none d _ (by simp [stepsLeft])

end Attempt

namespace Collection

variable {α : Type} (c : Collection α)

/-- Stores a record under a key that has none. -/
def store (key : String) (item : α) (d : Disk) : Except StoreError Unit × Disk :=
  Attempt.start.finish c key item d

/-- Reads the file of a record. -/
def readFile (name text : String) : Except StoreError α :=
  match Json.decode c.codec.read text with
  | .ok item => .ok item
  | .error f => .error (.decode (c.pathOf name) (f.describe text))

/-- The name of a file and what it holds; a directory is no file. -/
def fileOf? : String × Node → Option (String × String)
  | (name, .file text) => some (name, text)
  | (_, .directory) => none

/-- All records, in the order in which the disk lists their files; directories are passed over. -/
def fetchAll (d : Disk) : Except StoreError (List α) :=
  match d.list c.place with
  | .error .notFound => .error (.notFound c.directory)
  | .error e => .error (.disk "reading directory" c.directory e)
  | .ok entries => (entries.filterMap fileOf?).mapM fun file => c.readFile file.1 file.2

end Collection

end RateHerald
