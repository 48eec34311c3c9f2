/-!
# Settings of exports
-/

namespace SampleRecorder.Export

/-- The templates of a line and of the file name, and whether a header line comes first. -/
structure Settings where
  template : String := "$\x7btimestamp\x7d,$\x7bvalue1\x7d,$\x7bvalue2\x7d,$\x7bvalue3\x7d,$\x7blabel\x7d"
  filename : String := "data_export_$\x7btimestamp\x7d"
  includeHeader : Bool := true
  deriving DecidableEq, Repr

end SampleRecorder.Export
