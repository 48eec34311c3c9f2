import SampleRecorder.Log.Event
import SampleRecorder.Transmit.Settings

/-!
# The transmitter

Sends commands to a port.  What was sent is remembered twice: each text once, the most recent first, and the latest
commands in order with their encodings.
-/

namespace SampleRecorder.Transmit

/-- Texts that are remembered in the history. -/
def historyLimit : Nat := 50

/-- Commands that are remembered in order. -/
def sentLimit : Nat := 1000

/-- A port takes the bytes of a write, or refuses them for a cause.  `fault` is its answer to the next write and `later`
holds those to the writes behind it; the last answer stays. -/
structure Port where
  fault : Option Source.Fault := none
  later : List (Option Source.Fault) := []
  deriving DecidableEq, Repr

/-- The port behind a write. -/
def Port.next (port : Port) : Port :=
  match port.later with
  | [] => port
  | fault :: later => { fault, later }

/-- A command that was sent. -/
structure Sent where
  text : String
  encoding : Encoding
  deriving DecidableEq, Repr

/-- The command as a JSON object. -/
def Sent.toJson (s : Sent) : Json :=
  .obj [("direction", .str "TX"), ("data", .str s.text), ("encoding", .str s.encoding.label)]

/-- The state of the transmitter; `wire` holds the bytes that ports took, one entry for each command. -/
structure Transmitter where
  settings : Settings
  port : Option Port := none
  history : List String := []
  sent : List Sent := []
  wire : List (List UInt8) := []

namespace Transmitter

/-- Changes the settings. -/
def configure (t : Transmitter) (settings : Settings) : Traced Transmitter := do
  Traced.log .debug "Command writer reconfigured"
    [("enabled", .bool settings.enabled), ("encoding", .str settings.encoding.label),
      ("delay_ms", .int settings.automated.delay)]
  pure { t with settings }

/-- Sends later commands to a port. -/
def attach (t : Transmitter) (port : Port) : Transmitter :=
  { t with port := some port }

/-- Drops the port. -/
def disconnect (t : Transmitter) : Transmitter :=
  { t with port := none }

/-- Remembers a command that was sent. -/
def remember (t : Transmitter) (text : String) (bytes : List UInt8) : Transmitter where
  settings := t.settings
  port := t.port
  history := (text :: t.history.filter (· != text)).take historyLimit
  sent := (if t.sent.length = sentLimit then t.sent.drop 1 else t.sent) ++ [⟨text, t.settings.encoding⟩]
  wire := t.wire ++ [bytes]

/-- The transmitter behind a write, which the port has answered. -/
def answered (t : Transmitter) : Transmitter :=
  { t with port := t.port.map Port.next }

/-- Encodes and sends a text. -/
def send (t : Transmitter) (text : String) : Traced (Except Fault Unit × Transmitter) :=
  if !t.settings.enabled then do
    Traced.log .warn "Serial TX is disabled" [("data", .str text)]
    pure (.error .disabled, t)
  else
    match encode t.settings.encoding t.settings.lineEnding text with
    | .error fault => pure (.error fault, t)
    | .ok bytes =>
      match t.port with
      | none => pure (.error (.port .notConnected), t)
      | some port =>
        match port.fault with
        | some fault => do
          Traced.log .error "Failed to write command" [("error", .str fault.message), ("data", .str text)]
          pure (.error (.port fault), t.answered)
        | none => do
          Traced.log .debug "TX"
            [("bytes", .int bytes.length), ("data", .str text), ("encoding", .str t.settings.encoding.label)]
          pure (.ok (), t.answered.remember text bytes)

/-- Sends the first enabled command with a name. -/
def sendQuick (t : Transmitter) (id : String) : Traced (Except Fault Unit × Transmitter) :=
  match t.settings.quickCommands.find? fun c => c.id == id && c.enabled with
  | some c => t.send c.command
  | none => do
    Traced.log .warn "Quick command not found or disabled" [("id", .str id)]
    pure (.error (.unknownCommand id), t)

/-- Sends a command after logging it, unless it is blank. -/
def sendNamed (t : Transmitter) (command message : String) (data : List (String × Json)) :
    Traced (Except Fault Unit × Transmitter) :=
  match Text.trim command.toList with
  | [] => pure (.ok (), t)
  | trimmed => do
    Traced.log .info message (data ++ [("command", .str (String.ofList trimmed))])
    t.send (String.ofList trimmed)

/-- Sends the command of an event, if it has one. -/
def sendAutomated (t : Transmitter) (trigger : Trigger) : Traced (Except Fault Unit × Transmitter) :=
  t.sendNamed (t.settings.automated.command trigger) "Sending automated command" [("trigger", .str trigger.label)]

/-- Sends the first enabled command of a class, if it has one. -/
def sendClass (t : Transmitter) (classId : String) : Traced (Except Fault Unit × Transmitter) :=
  let command := t.settings.classCommands.find? fun c => c.classId == classId && c.enabled
  t.sendNamed ((command.map (·.command)).getD "") "Sending class command" [("class_id", .str classId)]

/-- Forgets the history. -/
def clearHistory (t : Transmitter) : Transmitter :=
  { t with history := [] }

end Transmitter

end SampleRecorder.Transmit
