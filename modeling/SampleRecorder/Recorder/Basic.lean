import SampleRecorder.Export.Template
import SampleRecorder.Line.Parser
import SampleRecorder.Recorder.Pending
import SampleRecorder.Rule.Ruleset
import SampleRecorder.Settings.Basic
import SampleRecorder.Source.Status

/-!
# The recorder

A recorder takes lines through its parser and its rules into its session, and sends commands at the events of the
connection and the recording.  Its parser, rules and template are always those of the settings in force: a change of
settings compiles all of them before it touches anything, so one that fails changes nothing.
-/

namespace SampleRecorder

/-- Lines that are remembered as they arrived. -/
def liveLimit : Nat := 100

/-- The state of the recorder. -/
structure Recorder where
  settings : Settings
  parser : Line.Parser
  rules : Ruleset
  template : Export.Template
  session : Recording.Session
  transmitter : Transmit.Transmitter
  live : List String := []
  status : Source.Status := .disconnected
  statusMessage : Option String := none
  pending : List Pending := []

namespace Recorder

/-- What became of a line. -/
inductive Outcome where
  | rejected
  | ignored (rule : String)
  | logged (rule : String)
  | passed
  | recorded (label : Option String)
  deriving DecidableEq, Repr

/-- What settings are compiled into. -/
structure Pipeline where
  parser : Line.Parser
  rules : Ruleset
  template : Export.Template

/-- Compiles settings; only the parser can be refused. -/
def compile (s : Settings) : Traced (Except Line.Fault Pipeline) := do
  match ← Line.Parser.compile s.line s.fields with
  | .error fault => pure (.error fault)
  | .ok parser =>
    let rules ← Ruleset.ofList s.rules
    pure (.ok ⟨parser, rules, Export.Template.compile s.exports.template s.fields⟩)

/-- A recorder with nothing recorded. -/
def new (s : Settings) : Traced (Except Line.Fault Recorder) := do
  match ← compile s with
  | .error fault => pure (.error fault)
  | .ok p =>
    Traced.log .info "Collector initialised"
      [("parser", .str s.line.kind.label), ("fields", .int s.fields.length), ("rules", .int s.rules.length)]
    pure (.ok
      { settings := s
        parser := p.parser
        rules := p.rules
        template := p.template
        session := { settings := s.recording }
        transmitter := { settings := s.transmit } })

/-- Changes the settings from the next line on.  All that can be refused comes before anything is set. -/
def configure (r : Recorder) (s : Settings) : Traced (Except Line.Fault Unit × Recorder) := do
  match ← compile s with
  | .error fault => pure (.error fault, r)
  | .ok p =>
    let r := { r with parser := p.parser }
    let r := { r with rules := p.rules }
    let r := { r with template := p.template }
    let session ← r.session.configure s.recording
    let r := { r with session }
    let transmitter ← r.transmitter.configure s.transmit
    let r := { r with transmitter }
    let r := { r with settings := s }
    Traced.log .info "Collector reconfigured"
      [("parser", .str r.settings.line.kind.label), ("rules", .int r.settings.rules.length)]
    pure (.ok (), r)

/-! ## Lines -/

/-- Remembers a line as it arrived. -/
def remember (r : Recorder) (line : String) : Recorder :=
  { r with live := (if r.live.length = liveLimit then r.live.drop 1 else r.live) ++ [line] }

/-- Stores a reading in the session. -/
def store (r : Recorder) (now : Int) (data : Reading) (label : Option String) : Outcome × Recorder :=
  match r.session.record now data label with
  | (some sample, session) => (.recorded sample.label, { r with session })
  | (none, session) => (.passed, { r with session })

/-- Takes a line through parser, rules and session. -/
def takeLine (r : Recorder) (now : Int) (line : String) : Traced (Outcome × Recorder) := do
  let r := r.remember line
  match ← r.parser.read now line with
  | none => pure (.rejected, r)
  | some data =>
    match ← r.rules.judge data with
    | .act .ignore _ rule =>
      Traced.log .debug "Line ignored by rule" [("rule_id", .str rule)]
      pure (.ignored rule, r)
    | .act .log _ rule =>
      Traced.log .info "Rule matched"
        [("rule_id", .str rule), ("raw", .str data.raw), ("fields", .str (String.ofList data.fields.toJson.compact))]
      pure (.logged rule, r)
    | .act .label value _ => pure (r.store now data value)
    | .pass => pure (r.store now data none)

/-! ## Commands -/

/-- Sends the command of an event; a failure is logged. -/
def automate (r : Recorder) (trigger : Transmit.Trigger) : Traced Recorder :=
  if r.transmitter.settings.enabled then do
    let (outcome, transmitter) ← r.transmitter.sendAutomated trigger
    match outcome with
    | .ok _ => pure ()
    | .error fault =>
      Traced.log .warn "Automated command not sent" [("trigger", .str trigger.label), ("error", .str fault.message)]
    pure { r with transmitter }
  else pure r

/-- Holds a command back until the source is connected. -/
def queue (r : Recorder) (p : Pending) : Recorder :=
  { r with pending := r.pending ++ [p] }

/-- Takes note of the state of the connection.  A connected source gets the command of this event and all commands
that were held back. -/
def setStatus (r : Recorder) (status : Source.Status) (message : Option String) : Traced Recorder := do
  Traced.logIf (status == .error) .warn (message.getD "")
  let r := { r with status, statusMessage := message }
  if status = .connected then do
    let r ← r.automate .connect
    let transmitter ← Pending.sendAll r.pending r.transmitter
    pure { r with transmitter, pending := [] }
  else pure r

/-- Sends the command of a class at the start of a recording; a failure is logged. -/
def sendClass (r : Recorder) (classId : String) : Traced Recorder := do
  let (outcome, transmitter) ← r.transmitter.sendClass classId
  match outcome with
  | .ok _ => pure ()
  | .error fault => Traced.log .warn "Class command not sent" [("class_id", .str classId), ("error", .str fault.message)]
  pure { r with transmitter }

/-- Sends the commands of the start of a recording, or holds them back until the source is connected. -/
def announceStart (r : Recorder) (classId : Option String) : Traced Recorder :=
  if !r.transmitter.settings.enabled then pure r
  else if r.status ≠ .connected then
    let r := r.queue (.automated .recordingStart)
    pure (match classId with | some c => r.queue (.classCommand c) | none => r)
  else do
    let r ← r.automate .recordingStart
    match classId with
    | some c => r.sendClass c
    | none => pure r

/-- Starts a recording; the answer says whether it has started. -/
def start (r : Recorder) (now : Int) (classId : Option String) : Traced (Bool × Recorder) := do
  let (started, session) ← r.session.start now classId
  let r := { r with session }
  if started then do
    let r ← r.announceStart classId
    pure (true, r)
  else pure (false, r)

/-- Ends the recording. -/
def stop (r : Recorder) : Traced Recorder := do
  let wasRecording := r.session.isRecording
  let session ← r.session.stop
  let r := { r with session }
  if wasRecording then r.automate .recordingStop else pure r

/-- Drops all samples. -/
def clear (r : Recorder) : Traced Recorder := do
  let session ← r.session.clear
  pure { r with session }

/-- Sends commands to a port. -/
def attach (r : Recorder) (port : Transmit.Port) : Recorder :=
  { r with transmitter := r.transmitter.attach port }

/-- Sends the command of the end of the connection and drops the port. -/
def detach (r : Recorder) : Traced Recorder := do
  let r ← r.automate .disconnect
  pure { r with transmitter := r.transmitter.disconnect }

/-- Sends a text. -/
def send (r : Recorder) (text : String) : Traced (Except Transmit.Fault Unit × Recorder) := do
  let (outcome, transmitter) ← r.transmitter.send text
  pure (outcome, { r with transmitter })

/-- Sends a quick command. -/
def sendQuick (r : Recorder) (id : String) : Traced (Except Transmit.Fault Unit × Recorder) := do
  let (outcome, transmitter) ← r.transmitter.sendQuick id
  pure (outcome, { r with transmitter })

/-- Ends the recording and drops the port and the commands that were held back; the samples stay. -/
def dispose (r : Recorder) : Traced Recorder := do
  let session ← r.session.stop
  Traced.log .debug "Collector disposed"
  pure { r with session, transmitter := r.transmitter.disconnect, pending := [] }

/-- Forgets the lines as they arrived. -/
def clearLive (r : Recorder) : Recorder :=
  { r with live := [] }

/-- Forgets the history of commands. -/
def clearHistory (r : Recorder) : Recorder :=
  { r with transmitter := r.transmitter.clearHistory }

end Recorder

end SampleRecorder
