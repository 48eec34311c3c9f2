import SampleRecorder.Source.Status

/-!
# Events

What a recorder is told: lines and news of the connection by the line source, and the end of a recording's time.
-/

namespace SampleRecorder

/-- A message to a recorder. -/
inductive Event where
  | line (text : String)
  | status (status : Source.Status) (message : Option String)
  | autoStop (generation : Nat)
  | sourceClosed
  | shutdown
  deriving DecidableEq, Repr

end SampleRecorder
