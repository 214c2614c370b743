import RateHerald.Text.Quoted

/-!
# Why a record cannot be kept or found

Records are files of one directory. What can go wrong with them is told with the path of the file or
directory.

## Main declarations

* `DiskError` is a refusal of the disk.
* `StoreError` lists what can go wrong with records.
-/

namespace RateHerald

/-- Why the disk refuses. -/
inductive DiskError where
  /-- There is nothing of that name. -/
  | notFound
  /-- There is something of that name already. -/
  | exists
  /-- A part of the path is not a directory. -/
  | notDirectory
  /-- The name is that of a directory. -/
  | isDirectory
  /-- A name in the path is too long. -/
  | nameTooLong
  /-- The device fails. -/
  | inputOutput
deriving Repr, DecidableEq

/-- The refusal in words. -/
def DiskError.message : DiskError → String
  | .notFound => "No such file or directory (os error 2)"
  | .exists => "File exists (os error 17)"
  | .notDirectory => "Not a directory (os error 20)"
  | .isDirectory => "Is a directory (os error 21)"
  | .nameTooLong => "File name too long (os error 36)"
  | .inputOutput => "Input/output error (os error 5)"

/-- What can go wrong with records. -/
inductive StoreError where
  /-- There is a record of that key. -/
  | alreadyExists (key path : String)
  /-- There is no directory of records. -/
  | notFound (path : String)
  /-- The key is not a plain name. -/
  | invalidKey (key : String)
  /-- The disk refuses an action. -/
  | disk (action path : String) (cause : DiskError)
  /-- The record cannot be written as JSON. -/
  | encode (path text : String)
  /-- The file does not hold a record. -/
  | decode (path text : String)
deriving Repr, DecidableEq

namespace StoreError

/-- Whether there is a record of that key. -/
def isAlreadyExists : StoreError → Bool
  | .alreadyExists _ _ => true
  | _ => false

/-- Whether there is no directory of records. -/
def isNotFound : StoreError → Bool
  | .notFound _ => true
  | _ => false

/-- The code of the fault. -/
def code : StoreError → String
  | .alreadyExists _ _ => "ALREADY_EXISTS"
  | .notFound _ => "NOT_FOUND"
  | .invalidKey _ => "INVALID_KEY"
  | .disk _ _ _ => "STORAGE_IO"
  | .encode _ _ => "STORAGE_ENCODE"
  | .decode _ _ => "STORAGE_DECODE"

/-- The fault in words. -/
def message : StoreError → String
  | .alreadyExists _ path => "record already exists: " ++ path
  | .notFound path => "collection not found: " ++ path
  | .invalidKey key => "invalid record key: " ++ Text.quoted key
  | .disk action path cause => action ++ " " ++ path ++ ": " ++ cause.message
  | .encode path text => "encoding JSON " ++ path ++ ": " ++ text
  | .decode path text => "decoding JSON " ++ path ++ ": " ++ text

end StoreError

end RateHerald
