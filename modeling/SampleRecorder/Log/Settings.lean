/-!
# Settings of the log
-/

namespace SampleRecorder.Log

/-- Which events are captured, how many are kept, and whether they are written to a file at the end; the level is kept
by its name. -/
structure Settings where
  level : String := "info"
  persistToFile : Bool := false
  maxEntries : Nat := 1000
  deriving DecidableEq, Repr

end SampleRecorder.Log
