import SampleRecorder.Source.Fault

/-!
# Faults of commands

Why a command is not sent, with the wording of each cause.
-/

namespace SampleRecorder.Transmit

/-- Why a command is not sent. -/
inductive Fault where
  | disabled
  | unknownCommand (id : String)
  | notHex (text : String)
  | port (fault : Source.Fault)
  deriving DecidableEq, Repr

/-- The wording of a cause. -/
def Fault.message : Fault → String
  | disabled => "Serial TX is disabled"
  | unknownCommand id => s!"Quick command '{id}' not found or disabled"
  | notHex text => s!"'{text}' is not a hex byte string"
  | port fault => fault.message

end SampleRecorder.Transmit
