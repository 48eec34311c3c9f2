import SampleRecorder.Export.Settings
import SampleRecorder.Json.Record
import SampleRecorder.Line.Settings
import SampleRecorder.Log.Settings
import SampleRecorder.Recording.Session
import SampleRecorder.Rule.Basic
import SampleRecorder.Source.Settings
import SampleRecorder.Transmit.Settings

/-!
# Settings

All that a user can set, section by section, with the values that hold where nothing is set.
-/

namespace SampleRecorder

/-- A class that samples can be recorded under. -/
structure SampleClass where
  id : String
  name : String
  color : String := ""
  deriving DecidableEq, Repr

/-- The settings of the program. -/
structure Settings where
  serial : Source.Settings := {}
  line : Line.Settings := { kind := .split, splitDelimiter := some Line.defaultSplitDelimiter }
  fields : List String := ["timestamp", "value1", "value2", "value3"]
  classes : List SampleClass :=
    [⟨"class1", "Class 1", "bg-blue-500"⟩, ⟨"class2", "Class 2", "bg-green-500"⟩, ⟨"class3", "Class 3", "bg-purple-500"⟩]
  rules : List Rule := []
  exports : Export.Settings := {}
  recording : Recording.Settings := {}
  log : Log.Settings := {}
  transmit : Transmit.Settings := {}
  deriving DecidableEq, Repr

namespace Settings

/-- Why settings are not read or kept; a `reason` is the system's own report. -/
inductive Fault where
  | malformed (cause : Json.Cause)
  | file (path reason : String)
  deriving DecidableEq, Repr

/-- The wording of a cause; the report on the JSON text is its reader's own and is not part of it. -/
def Fault.message : Fault → String
  | malformed _ => "Invalid configuration JSON: "
  | file path reason => s!"Config I/O error '{path}': " ++ reason

end Settings

end SampleRecorder
