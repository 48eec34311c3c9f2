/-!
# Faults of exports

Why samples are not exported, with the wording of each cause.
-/

namespace SampleRecorder.Export

/-- Why samples are not exported; a `reason` is the system's own report. -/
inductive Fault where
  | noSamples
  | badTemplate (errors : List String)
  | notWritten (path reason : String)
  deriving DecidableEq, Repr

/-- The wording of a cause. -/
def Fault.message : Fault → String
  | noSamples => "No data to export"
  | badTemplate errors => "Export template is invalid: " ++ "; ".intercalate errors
  | notWritten path reason => s!"Export I/O error '{path}': " ++ reason

end SampleRecorder.Export
