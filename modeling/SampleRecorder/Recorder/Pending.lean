import SampleRecorder.Text.Quoted
import SampleRecorder.Transmit.Transmitter

/-!
# Commands that wait for a connection
-/

namespace SampleRecorder

/-- A command that is held back until the source is connected. -/
inductive Pending where
  | text (text : String)
  | quick (id : String)
  | automated (trigger : Transmit.Trigger)
  | classCommand (classId : String)
  deriving DecidableEq, Repr

namespace Pending

/-- How an event is called in the log. -/
def triggerName : Transmit.Trigger → String
  | .connect => "Connect"
  | .disconnect => "Disconnect"
  | .recordingStart => "RecordingStart"
  | .recordingStop => "RecordingStop"

/-- The command as it is shown in the log. -/
def describe : Pending → String
  | text s => "Text(" ++ Text.quoted s ++ ")"
  | quick id => "Quick(" ++ Text.quoted id ++ ")"
  | automated trigger => "Automated(" ++ triggerName trigger ++ ")"
  | classCommand id => "Class(" ++ Text.quoted id ++ ")"

/-- Sends the command. -/
def send (t : Transmit.Transmitter) : Pending → Traced (Except Transmit.Fault Unit × Transmit.Transmitter)
  | text s => t.send s
  | quick id => t.sendQuick id
  | automated trigger => t.sendAutomated trigger
  | classCommand id => t.sendClass id

/-- Sends commands in order; a failure is logged and does not keep back the others. -/
def sendAll : List Pending → Transmit.Transmitter → Traced Transmit.Transmitter
  | [], t => pure t
  | p :: rest, t => do
    let (outcome, t) ← p.send t
    match outcome with
    | .ok _ => pure ()
    | .error fault =>
      Traced.log .warn "Queued command not sent" [("command", .str p.describe), ("error", .str fault.message)]
    sendAll rest t

end Pending

end SampleRecorder
