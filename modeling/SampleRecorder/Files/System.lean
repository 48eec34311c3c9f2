import SampleRecorder.Files.Path
import SampleRecorder.Files.Problem
import SampleRecorder.Text.Utf8

/-!
# File systems

The operations on files that the program needs, for any monad in which they can be carried out.  The directories on
a path are created from the deepest one that can be created on, each inside the one before (`createDirectories`).
-/

namespace SampleRecorder.Files

/-- The operations of a file system. -/
structure System (m : Type → Type) where
  read : String → m (Except Problem (List UInt8))
  write : String → List UInt8 → m (Except Problem Unit)
  createDirectory : String → m (Except Problem Unit)
  rename : String → String → m (Except Problem Unit)
  remove : String → m Unit

/-- The text that bytes encode, if they encode one. -/
def text? (bytes : List UInt8) : Option String :=
  let s := (Text.Utf8.decode [] bytes).1
  if Text.Utf8.encode s = bytes then some (String.ofList s) else none

/-- The bytes of a text. -/
def bytesOf (s : String) : List UInt8 :=
  Text.Utf8.encode s.toList

namespace System

variable {m : Type → Type} [Monad m]

/-- The text of a file. -/
def readText (sys : System m) (path : String) : m (Except Problem String) := do
  match ← sys.read path with
  | .error problem => pure (.error problem)
  | .ok bytes =>
    match text? bytes with
    | some s => pure (.ok s)
    | none => pure (.error .notText)

/-- Writes a text to a file. -/
def writeText (sys : System m) (path text : String) : m (Except Problem Unit) :=
  sys.write path (bytesOf text)

/-- Whether a directory stands at a path. -/
def isDirectory (sys : System m) (path : String) : m Bool := do
  match ← sys.read path with
  | .error .isDirectory => pure true
  | _ => pure false

/-- Creates a directory, unless it is there already. -/
def ensureDirectory (sys : System m) (path : String) : m (Except Problem Unit) := do
  match ← sys.createDirectory path with
  | .error .alreadyExists => do
    if ← sys.isDirectory path then pure (.ok ()) else pure (.error .alreadyExists)
  | answer => pure answer

/-- Tries paths, each above the one before, until one is a directory; the answer holds those tried in vain, deepest
last. -/
def climb (sys : System m) (missing : List String) : List String → m (Except Problem (List String))
  | [] => pure (.ok missing)
  | path :: above => do
    match ← sys.ensureDirectory path with
    | .ok () => pure (.ok missing)
    | .error .notFound => climb sys (path :: missing) above
    | .error problem => pure (.error problem)

/-- Creates directories one after another. -/
def descend (sys : System m) : List String → m (Except Problem Unit)
  | [] => pure (.ok ())
  | path :: below => do
    match ← sys.ensureDirectory path with
    | .ok () => descend sys below
    | .error problem => pure (.error problem)

/-- Creates the directories on a path, where they are missing. -/
def createDirectories (sys : System m) (path : String) : m (Except Problem Unit) := do
  match ← sys.climb [] (Path.ancestors path) with
  | .ok missing => sys.descend missing
  | .error problem => pure (.error problem)

end System

end SampleRecorder.Files
