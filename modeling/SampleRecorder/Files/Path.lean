import SampleRecorder.Text.Search

/-!
# Paths

Paths are texts with slashes between names.  Empty names have no meaning, `.` stands for the directory that it stands
in and `..` for the one above.  `parent?` leaves a path as it is written, up to the slashes and single dots behind the
name where it ends.
-/

namespace SampleRecorder.Files.Path

/-- Whether a path starts at the root. -/
def isAbsolute (path : String) : Bool :=
  path.toList.head? == some '/'

/-- The path of a name inside a directory; an absolute name stays as it is. -/
def join (directory name : String) : String :=
  if isAbsolute name || directory = "" then name
  else if directory.toList.getLast? = some '/' then directory ++ name
  else directory ++ "/" ++ name

/-- The names on a path. -/
def names (path : String) : List String :=
  ((Text.split ['/'] path.toList).map String.ofList).filter (· != "")

/-- A path without slashes and single dots at its end, given last character first and without the slash of the root.
A relative path keeps a dot at its beginning. -/
def trimmed (absolute : Bool) : List Char → List Char
  | '/' :: rest => trimmed absolute rest
  | ['.'] => if absolute then [] else ['.']
  | '.' :: '/' :: rest => trimmed absolute rest
  | path => path

/-- A path without slashes and single dots at its end and without the slash of the root, last character first. -/
def body (path : String) : List Char :=
  trimmed (isAbsolute path) (path.toList.drop (if isAbsolute path then 1 else 0)).reverse

/-- The path of the directory that holds the last name of a path; the root and the empty path have none. -/
def parent? (path : String) : Option String :=
  match body path with
  | [] => none
  | last =>
    let above := trimmed (isAbsolute path) (last.dropWhile (· ≠ '/'))
    some ((if isAbsolute path then "/" else "") ++ String.ofList above.reverse)

/-- The path and the directories above it, nearest first, without the root and the empty path; at most `fuel` many. -/
def upwards : Nat → String → List String
  | 0, _ => []
  | fuel + 1, path =>
    match parent? path with
    | none => []
    | some parent => path :: upwards fuel parent

/-- The path and the directories above it, nearest first, without the root and the empty path. -/
def ancestors (path : String) : List String :=
  upwards (path.length + 1) path

/-- The last name of a path that does not end in a dot. -/
def lastName (path : String) : String :=
  (names path).getLast?.getD ""

/-- A path with another ending behind the last dot of its last name. -/
def withEnding (path ending : String) : String :=
  let reversed := body path
  let name := reversed.takeWhile (· ≠ '/')
  let stem :=
    match name.dropWhile (· ≠ '.') with
    | [] | ['.'] => name
    | _ :: stem => stem
  (if isAbsolute path then "/" else "") ++ String.ofList (stem ++ reversed.dropWhile (· ≠ '/')).reverse ++ "." ++ ending

end SampleRecorder.Files.Path
