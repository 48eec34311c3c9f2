/-!
# The state of a connection
-/

namespace SampleRecorder.Source

/-- The state of the connection to a line source. -/
inductive Status where
  | disconnected
  | connecting
  | connected
  | error
  deriving DecidableEq, Repr, Inhabited

/-- The name of a state. -/
def Status.label : Status → String
  | disconnected => "disconnected"
  | connecting => "connecting"
  | connected => "connected"
  | error => "error"

end SampleRecorder.Source
