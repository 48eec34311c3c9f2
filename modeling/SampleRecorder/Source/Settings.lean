/-!
# Settings of the line source
-/

namespace SampleRecorder.Source

/-- How lines arrive, and what ends a line that is sent; the encoding is kept as it was written. -/
structure Settings where
  baudRate : Nat := 115200
  delimiter : String := "\n"
  encoding : String := "utf-8"
  lineEnding : String := "\n"
  deriving DecidableEq, Repr

end SampleRecorder.Source
