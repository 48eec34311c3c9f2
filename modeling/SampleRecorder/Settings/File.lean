import SampleRecorder.Files.Path
import SampleRecorder.Files.System
import SampleRecorder.Settings.Merge

/-!
# Settings in files

Settings are read from a file, where a missing one stands for no changes, and written to a file in one step: they are
written beside it first and then take its place.
-/

namespace SampleRecorder.Settings

open Files (System)

variable {m : Type → Type} [Monad m]

/-- Reads settings from a file. -/
def load (sys : System m) (path : String) : m (Traced (Except Fault (Checked Settings))) := do
  match ← sys.readText path with
  | .error .notFound =>
    pure do
      Traced.log .debug "No config file found; using defaults" [("path", .str path)]
      pure (.ok ({}, []))
  | .error problem => pure (pure (.error (.file path problem.message)))
  | .ok text =>
    pure do
      match ← Settings.ofText text with
      | .error fault => pure (.error fault)
      | .ok loaded =>
        Traced.log .info "Loaded config file" [("path", .str path)]
        pure (.ok loaded)

/-- The ending of the file beside the one that is written. -/
def besideEnding : String := "json.tmp"

/-- Writes settings beside a file and puts them in its place. -/
def replace (sys : System m) (s : Settings) (path : String) : m (Traced (Except Fault Unit)) := do
  let beside := Files.Path.withEnding path besideEnding
  match ← sys.writeText beside s.text with
  | .error problem => pure (pure (.error (.file beside problem.message)))
  | .ok () =>
    match ← sys.rename beside path with
    | .error problem => do
      sys.remove beside
      pure (pure (.error (.file path problem.message)))
    | .ok () =>
      pure do
        Traced.log .debug "Config saved" [("path", .str path)]
        pure (.ok ())

/-- Writes settings to a file, whose directories are created. -/
def save (sys : System m) (s : Settings) (path : String) : m (Traced (Except Fault Unit)) := do
  match Files.Path.parent? path with
  | none => replace sys s path
  | some parent =>
    match ← sys.createDirectories parent with
    | .error problem => pure (pure (.error (.file parent problem.message)))
    | .ok () => replace sys s path

end SampleRecorder.Settings
