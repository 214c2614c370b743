import RateHerald.Url.Form

/-!
# Paths

The path of an address is a list of segments. A segment `.` stands for nothing and a segment `..`
takes back the segment before it, both also when their points are percent-encoded; after either at
the end of a path there is an empty segment. A drive letter is never taken back.

## Main declarations

* `Path.ofSegments` resolves the segments of a written path.
* `Path.read` reads the text of a path, from behind its first slash.
* `Path.toChars` writes a path.
-/

namespace RateHerald.Url.Path

/-- The segment with encoded points taken back, to be compared with `.` and `..`. -/
def plainPoints : List Char → List Char
  | '%' :: '2' :: 'e' :: rest => '.' :: plainPoints rest
  | '%' :: '2' :: 'E' :: rest => '.' :: plainPoints rest
  | c :: rest => c :: plainPoints rest
  | [] => []

/-- Whether a segment stands for nothing. -/
def isSingle (segment : List Char) : Bool :=
  plainPoints segment == ['.']

/-- Whether a segment takes back the one before it. -/
def isDouble (segment : List Char) : Bool :=
  plainPoints segment == ['.', '.']

/-- Whether a segment is a drive letter. -/
def isDrive : List Char → Bool
  | [c, d] => c.isAlpha && (d == ':' || d == '|')
  | _ => false

/-- The segments without the last one, unless that is a drive letter. -/
def parent (segments : List (List Char)) : List (List Char) :=
  match segments.getLast? with
  | some segment => if isDrive segment then segments else segments.dropLast
  | none => []

/-- Adds written segments to a path. -/
def addSegments (path : List (List Char)) : List (List Char) → List (List Char)
  | [] => path
  | segment :: rest =>
    let ended := rest.isEmpty
    if isDouble segment then
      addSegments (if ended then parent path ++ [[]] else parent path) rest
    else if isSingle segment then addSegments (if ended then path ++ [[]] else path) rest
    else addSegments (path ++ [segment]) rest

/-- The path of written segments. -/
def ofSegments (segments : List (List Char)) : List (List Char) :=
  addSegments [] segments

/-- The text of a path, from behind its first slash, as written segments, percent-encoded. With
`backslash` a backslash divides segments too. -/
def split (backslash : Bool) (cs : List Char) : List (List Char) :=
  (Form.splitAt '/' (if backslash then cs.map fun c => if c = '\\' then '/' else c else cs)).map
    (encode inPath)

/-- Reads the text of a path, from behind its first slash. -/
def read (backslash : Bool) (cs : List Char) : List (List Char) :=
  ofSegments (split backslash cs)

/-- Writes a path: a slash before every segment. -/
def toChars (segments : List (List Char)) : List Char :=
  segments.flatMap fun segment => '/' :: segment

/-- Makes a drive letter at the beginning of the path of a file end in a colon. -/
def normalDrive : List (List Char) → List (List Char)
  | [c, '|'] :: rest => if c.isAlpha then [c, ':'] :: rest else [c, '|'] :: rest
  | segments => segments

/-- Reads the text of the path of a file: empty segments at its beginning are passed over. -/
def readFile (cs : List Char) : List (List Char) :=
  match (ofSegments (normalDrive (split true cs))).dropWhile List.isEmpty with
  | [] => [[]]
  | segments => segments

end RateHerald.Url.Path
