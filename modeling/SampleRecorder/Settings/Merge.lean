import SampleRecorder.Log.Event
import SampleRecorder.Settings.Document
import SampleRecorder.Settings.Printer
import SampleRecorder.Text.Casing

/-!
# Changing settings

A document is laid over settings key by key.  A value that cannot be used is passed over with a warning, and the old
one stays.
-/

namespace SampleRecorder.Settings

/-- Why a value of a document is passed over. -/
inductive Warning where
  | outOfRange (key : String) (value low high kept : Nat)
  | empty (key noun : String)
  | unsupported (key value : String) (known : List String) (kept : String)
  | unrecognised (key value : String) (known : List String) (kept : String)
  deriving DecidableEq, Repr

/-- The end of a warning about a name. -/
def Warning.advice (known : List String) (kept : String) : String :=
  "Valid values: " ++ ", ".intercalate known ++ s!". Keeping \"{kept}\"."

/-- The wording of a warning. -/
def Warning.message : Warning → String
  | outOfRange key value low high kept => s!"{key} = {value} is out of range ({low}-{high}). Keeping {kept}."
  | empty key noun => s!"{key} must not be empty. Keeping the previous {noun}."
  | unsupported key value known kept => s!"{key} = \"{value}\" is not supported. " ++ advice known kept
  | unrecognised key value known kept => s!"{key} = \"{value}\" is not recognised. " ++ advice known kept

/-- A value with the warnings about its making. -/
abbrev Checked (α : Type) := α × List Warning

/-- The new number, if it is in range. -/
def inRange (key : String) (low high : Nat) (new : Option Nat) (old : Nat) : Checked Nat :=
  match new with
  | none => (old, [])
  | some n => if low ≤ n ∧ n ≤ high then (n, []) else (old, [.outOfRange key n low high old])

/-- The names of encodings of the line source in warnings. -/
def sourceEncodings : List String :=
  ["utf-8", "ascii", "latin1"]

/-- Lays a section over the settings of the line source. -/
def SerialPart.apply (p : SerialPart) (s : Source.Settings) : Checked Source.Settings :=
  let (baudRate, range) := inRange "serial.baudRate" 300 4000000 p.baudRate s.baudRate
  let (delimiter, blank) : Checked String :=
    match p.delimiter with
    | none => (s.delimiter, [])
    | some d => if d = "" then (s.delimiter, [.empty "serial.delimiter" "delimiter"]) else (d, [])
  let (encoding, name) : Checked String :=
    match p.encoding with
    | none => (s.encoding, [])
    | some e =>
      if (Frame.Encoding.ofName? e).isSome then (e, [])
      else (s.encoding, [.unsupported "serial.encoding" e sourceEncodings s.encoding])
  ({ baudRate, delimiter, encoding, lineEnding := p.lineEnding.getD s.lineEnding }, range ++ blank ++ name)

/-- Lays a section over the settings of the line parser. -/
def LinePart.apply (p : LinePart) (s : Line.Settings) : Line.Settings where
  kind := p.kind.getD s.kind
  splitDelimiter := p.splitDelimiter <|> s.splitDelimiter
  regex := p.regex <|> s.regex
  regexGroups := p.regexGroups <|> s.regexGroups
  customParser := p.customParser <|> s.customParser
  skipLines := p.skipLines.getD s.skipLines

/-- Lays a list of fields over another one. -/
def applyFields (new : Option (List String)) (old : List String) : Checked (List String) :=
  match new with
  | none => (old, [])
  | some [] => (old, [.empty "fields" "field list"])
  | some fields => (fields, [])

/-- Lays a section over the settings of exports. -/
def ExportPart.apply (p : ExportPart) (s : Export.Settings) : Export.Settings where
  template := p.template.getD s.template
  filename := p.filename.getD s.filename
  includeHeader := p.includeHeader.getD s.includeHeader

/-- The greatest number of seconds after which a recording ends by itself. -/
def autoStopLimit : Nat := 86400

/-- Lays a section over the settings of the recording. -/
def RecordingPart.apply (p : RecordingPart) (s : Recording.Settings) : Checked Recording.Settings :=
  let (autoStopSeconds, range) :=
    inRange "recording.autoStopSeconds" 0 autoStopLimit p.autoStopSeconds s.autoStopSeconds
  ({ autoStopSeconds, enableLabeling := p.enableLabeling.getD s.enableLabeling }, range)

/-- The names of the levels in settings. -/
def levelNames : List String :=
  Log.Level.all.map (·.key)

/-- The name of a level in lower case, if there is such a level. -/
def levelName? (name : String) : Option String :=
  let lower := String.ofList (Text.toLower name.toList)
  if lower ∈ levelNames then some lower else none

/-- Lays a section over the settings of the log. -/
def LogPart.apply (p : LogPart) (s : Log.Settings) : Checked Log.Settings :=
  let (level, name) : Checked String :=
    match p.level with
    | none => (s.level, [])
    | some l =>
      match levelName? l with
      | some level => (level, [])
      | none => (s.level, [.unrecognised "logging.level" l levelNames s.level])
  let (maxEntries, range) := inRange "logging.maxEntries" 10 100000 p.maxEntries s.maxEntries
  ({ level, persistToFile := p.persistToFile.getD s.persistToFile, maxEntries }, name ++ range)

/-- Lays a part of a section over the commands of events. -/
def AutomatedPart.apply (p : AutomatedPart) (s : Transmit.Automated) : Checked Transmit.Automated :=
  let (delay, range) := inRange "serialTx.automatedCommands.delayBetweenCommands" 0 60000 p.delay s.delay
  ({ onConnect := p.onConnect.getD s.onConnect
     onDisconnect := p.onDisconnect.getD s.onDisconnect
     onRecordingStart := p.onRecordingStart.getD s.onRecordingStart
     onRecordingStop := p.onRecordingStop.getD s.onRecordingStop
     delay }, range)

/-- The names of encodings of the transmitter in warnings. -/
def transmitEncodings : List String :=
  [Transmit.Encoding.utf8, .ascii, .raw].map (·.label)

/-- Lays a section over the settings of the transmitter. -/
def TransmitPart.apply (p : TransmitPart) (s : Transmit.Settings) : Checked Transmit.Settings :=
  let (encoding, name) : Checked Transmit.Encoding :=
    match p.encoding with
    | none => (s.encoding, [])
    | some e =>
      match Transmit.Encoding.ofName? e with
      | some encoding => (encoding, [])
      | none => (s.encoding, [.unsupported "serialTx.encoding" e transmitEncodings s.encoding.label])
  let (automated, range) := p.automated.apply s.automated
  ({ enabled := p.enabled.getD s.enabled
     encoding
     lineEnding := p.lineEnding.getD s.lineEnding
     quickCommands := p.quickCommands.getD s.quickCommands
     classCommands := p.classCommands.getD s.classCommands
     automated }, name ++ range)

/-- Lays a document over settings. -/
def Document.apply (d : Document) (s : Settings) : Checked Settings :=
  let (serial, w₁) := d.serial.apply s.serial
  let (fields, w₂) := applyFields d.fields s.fields
  let (recording, w₃) := d.recording.apply s.recording
  let (log, w₄) := d.log.apply s.log
  let (transmit, w₅) := d.transmit.apply s.transmit
  ({ serial
     line := d.line.apply s.line
     fields
     classes := d.classes.getD s.classes
     rules := d.rules.getD s.rules
     exports := d.exports.apply s.exports
     recording
     log
     transmit }, w₁ ++ w₂ ++ w₃ ++ w₄ ++ w₅)

/-- Logs how many warnings there are, and each of them. -/
def logWarnings (warnings : List Warning) : Traced Unit :=
  match warnings with
  | [] => pure ()
  | _ => do
    Traced.log .warn "Config validation produced warnings" [("count", .int warnings.length)]
    let _ ← Traced.mapList (fun w => Traced.log .warn w.message) warnings
    pure ()

/-- Lays the document that a text spells over settings; a text that spells none changes nothing. -/
def merge (s : Settings) (text : String) : Traced (Except Fault (Checked Settings)) :=
  match Document.ofText text with
  | .error cause => pure (.error (.malformed cause))
  | .ok d => do
    logWarnings (d.apply s).2
    pure (.ok (d.apply s))

/-- The settings of the document that a text spells. -/
def ofText (text : String) : Traced (Except Fault (Checked Settings)) :=
  merge {} text

end SampleRecorder.Settings
