import SampleRecorder.Dict
import SampleRecorder.Files.Path
import SampleRecorder.Files.System

/-!
# File systems as values

A tree of files and directories under a root, with a directory where relative paths start.  `Tree.system` carries out
the operations of a file system on such a value.
-/

namespace SampleRecorder.Files

/-- A file or a directory. -/
inductive Node where
  | file (bytes : List UInt8)
  | directory
  deriving DecidableEq, Repr

/-- A place in a tree: the names on the way from the root. -/
abbrev Place := List String

/-- The files and directories of a tree under their places, and the place where relative paths start. -/
structure Tree where
  nodes : Dict Node := .empty
  home : Place := []

namespace Tree

/-- The absolute path of a place. -/
def key (place : Place) : String :=
  String.join (place.map ("/" ++ ·))

/-- What stands at a place; the root is a directory. -/
def node? (t : Tree) (place : Place) : Option Node :=
  match place with
  | [] => some .directory
  | _ => t.nodes.get? (key place)

/-- Puts something at a place. -/
def put (t : Tree) (place : Place) (node : Node) : Tree :=
  { t with nodes := t.nodes.insert (key place) node }

/-- The greatest length of a name in bytes. -/
def nameLimit : Nat := 255

/-- Follows names from a place; all but the last one must be directories. -/
def follow (t : Tree) (place : Place) : List String → Except Problem Place
  | [] => .ok place
  | name :: rest =>
    if name = "." then follow t place rest
    else if name = ".." then follow t place.dropLast rest
    else if nameLimit < name.utf8ByteSize then .error .nameTooLong
    else
      let next := place ++ [name]
      match rest with
      | [] => .ok next
      | rest =>
        match t.node? next with
        | none => .error .notFound
        | some (.file _) => .error .notDirectory
        | some .directory => follow t next rest

/-- Where a path starts. -/
def origin (t : Tree) (path : String) : Place :=
  if Path.isAbsolute path then [] else t.home

/-- The length in bytes that a path must not reach. -/
def pathLimit : Nat := 4096

/-- The place that a path leads to, whether or not something stands there. -/
def locate (t : Tree) (path : String) : Except Problem Place :=
  if path.toList.contains '\x00' then .error .badName
  else if path = "" then .error .notFound
  else if pathLimit ≤ path.utf8ByteSize then .error .nameTooLong
  else t.follow (t.origin path) (Path.names path)

/-- Whether a path can only lead to a directory. -/
def namesDirectory (path : String) : Bool :=
  path.toList.getLast? == some '/'

/-- The bytes of a file. -/
def read (t : Tree) (path : String) : Except Problem (List UInt8) := do
  let place ← t.locate path
  match t.node? place with
  | none => .error .notFound
  | some .directory => .error .isDirectory
  | some (.file bytes) => if namesDirectory path then .error .notDirectory else .ok bytes

/-- Writes a file, new or instead of another one. -/
def write (t : Tree) (path : String) (bytes : List UInt8) : Except Problem Tree := do
  let place ← t.locate path
  if namesDirectory path then .error .isDirectory
  else
    match t.node? place with
    | some .directory => .error .isDirectory
    | some (.file _) | none => .ok (t.put place (.file bytes))

/-- Creates a directory in one that is there. -/
def createDirectory (t : Tree) (path : String) : Except Problem Tree := do
  let place ← t.locate path
  match (Path.names path).getLast?, t.node? place with
  | some ".", _ | some "..", _ | none, _ | _, some _ => .error .alreadyExists
  | some _, none => .ok (t.put place .directory)

/-- Removes a file, if there is one. -/
def remove (t : Tree) (path : String) : Tree :=
  match t.locate path with
  | .ok place =>
    match t.node? place with
    | some (.file _) => { t with nodes := t.nodes.erase (key place) }
    | _ => t
  | .error _ => t

/-- Gives a file another path, where it replaces another file. -/
def rename (t : Tree) (old new : String) : Except Problem Tree := do
  let bytes ← t.read old
  let moved ← (t.remove old).write new bytes
  .ok moved

/-- Carries out an operation that may change the tree; a failure changes nothing. -/
def changing (change : Tree → Except Problem Tree) : StateM Tree (Except Problem Unit) :=
  fun t =>
    match change t with
    | .ok t => (.ok (), t)
    | .error problem => (.error problem, t)

/-- The operations of a file system on a tree. -/
def system : System (StateM Tree) where
  read path := fun t => (t.read path, t)
  write path bytes := changing (·.write path bytes)
  createDirectory path := changing (·.createDirectory path)
  rename old new := changing (·.rename old new)
  remove path := fun t => ((), t.remove path)

end Tree

end SampleRecorder.Files
