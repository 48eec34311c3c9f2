import SampleRecorder.Transmit.Encoding

/-!
# Settings of the transmitter

The commands that are sent on demand, at the start of a recording of a class, and at events of the connection and the
recording.
-/

namespace SampleRecorder.Transmit

/-- A command that is sent on demand by its name. -/
structure QuickCommand where
  id : String
  label : String := ""
  command : String
  enabled : Bool := true
  deriving DecidableEq, Repr

/-- A command that is sent when a recording of a class starts. -/
structure ClassCommand where
  classId : String
  command : String
  enabled : Bool := true
  deriving DecidableEq, Repr

/-- An event that may send a command. -/
inductive Trigger where
  | connect
  | disconnect
  | recordingStart
  | recordingStop
  deriving DecidableEq, Repr

/-- The name of an event in settings. -/
def Trigger.label : Trigger → String
  | connect => "onConnect"
  | disconnect => "onDisconnect"
  | recordingStart => "onRecordingStart"
  | recordingStop => "onRecordingStop"

/-- The commands of events, where the empty one stands for none, and the least distance of two commands in
milliseconds. -/
structure Automated where
  onConnect : String := ""
  onDisconnect : String := ""
  onRecordingStart : String := ""
  onRecordingStop : String := ""
  delay : Nat := 100
  deriving DecidableEq, Repr

/-- The command of an event. -/
def Automated.command (a : Automated) : Trigger → String
  | .connect => a.onConnect
  | .disconnect => a.onDisconnect
  | .recordingStart => a.onRecordingStart
  | .recordingStop => a.onRecordingStop

/-- The settings of the transmitter. -/
structure Settings where
  enabled : Bool := false
  encoding : Encoding := .utf8
  lineEnding : String := "\n"
  quickCommands : List QuickCommand := []
  classCommands : List ClassCommand := []
  automated : Automated := {}
  deriving DecidableEq, Repr

end SampleRecorder.Transmit
