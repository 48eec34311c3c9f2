import SampleRecorder.Json.Record
import SampleRecorder.Settings.Basic

/-!
# Documents with settings

A document names the settings that it changes; what it leaves out, or sets to `null`, stays as it is.  Unknown keys
are skipped, but a known key must not stand twice and must hold a value of its type.
-/

namespace SampleRecorder.Settings

open Json (Decoder Member)

/-- The section on the line source. -/
structure SerialPart where
  baudRate : Option Nat := none
  delimiter : Option String := none
  encoding : Option String := none
  lineEnding : Option String := none
  deriving DecidableEq, Repr

/-- The section on the line parser. -/
structure LinePart where
  kind : Option Line.Kind := none
  splitDelimiter : Option String := none
  regex : Option String := none
  regexGroups : Option (List String) := none
  customParser : Option String := none
  skipLines : Option (List String) := none
  deriving DecidableEq, Repr

/-- The section on exports. -/
structure ExportPart where
  template : Option String := none
  filename : Option String := none
  includeHeader : Option Bool := none
  deriving DecidableEq, Repr

/-- The section on the recording. -/
structure RecordingPart where
  autoStopSeconds : Option Nat := none
  enableLabeling : Option Bool := none
  deriving DecidableEq, Repr

/-- The section on the log. -/
structure LogPart where
  level : Option String := none
  persistToFile : Option Bool := none
  maxEntries : Option Nat := none
  deriving DecidableEq, Repr

/-- The part of a section on the commands of events. -/
structure AutomatedPart where
  onConnect : Option String := none
  onDisconnect : Option String := none
  onRecordingStart : Option String := none
  onRecordingStop : Option String := none
  delay : Option Nat := none
  deriving DecidableEq, Repr

/-- The section on the transmitter. -/
structure TransmitPart where
  enabled : Option Bool := none
  encoding : Option String := none
  lineEnding : Option String := none
  quickCommands : Option (List Transmit.QuickCommand) := none
  classCommands : Option (List Transmit.ClassCommand) := none
  automated : AutomatedPart := {}
  deriving DecidableEq, Repr

/-- A document; a section that is left out changes nothing. -/
structure Document where
  serial : SerialPart := {}
  line : LinePart := {}
  fields : Option (List String) := none
  classes : Option (List SampleClass) := none
  rules : Option (List Rule) := none
  exports : ExportPart := {}
  recording : RecordingPart := {}
  log : LogPart := {}
  transmit : TransmitPart := {}
  deriving DecidableEq, Repr

variable {α σ : Type}

/-- A member that may be left out or set to `null`. -/
def setting (key : String) (decode : Decoder α) (set : Option α → σ → σ) : Member σ :=
  .optional key (Decoder.nullable decode) set

/-- A section that may be left out or set to `null`. -/
def nested (key : String) (members : List (Member α)) (start : α) (set : α → σ → σ) : Member σ :=
  .optional key (Decoder.nullable (Decoder.record members start)) fun v => set (v.getD start)

/-- The greatest baud rate that a document can hold. -/
def baudLimit : Nat := Number.greatest32

/-- The greatest number of seconds, milliseconds or entries that a document can hold. -/
def countLimit : Nat := Number.greatest64

/-- The members of the section on the line source. -/
def SerialPart.members : List (Member SerialPart) :=
  [setting "baudRate" (Decoder.natural baudLimit) fun v p => { p with baudRate := v },
    setting "delimiter" Decoder.text fun v p => { p with delimiter := v },
    setting "encoding" Decoder.text fun v p => { p with encoding := v },
    setting "lineEnding" Decoder.text fun v p => { p with lineEnding := v }]

/-- The ways of reading lines under their names. -/
def lineKinds : List (String × Line.Kind) :=
  [Line.Kind.split, .regex, .json, .custom].map fun k => (k.label, k)

/-- The members of the section on the line parser. -/
def LinePart.members : List (Member LinePart) :=
  [setting "type" (Decoder.choice lineKinds) fun v p => { p with kind := v },
    setting "splitDelimiter" Decoder.text fun v p => { p with splitDelimiter := v },
    setting "regex" Decoder.text fun v p => { p with regex := v },
    setting "regexGroups" (Decoder.list Decoder.text) fun v p => { p with regexGroups := v },
    setting "customParser" Decoder.text fun v p => { p with customParser := v },
    setting "skipLines" (Decoder.list Decoder.text) fun v p => { p with skipLines := v }]

/-- The members of a class. -/
def classMembers : List (Member SampleClass) :=
  [.required "id" Decoder.text fun v c => { c with id := v },
    .required "name" Decoder.text fun v c => { c with name := v },
    .optional "color" Decoder.text fun v c => { c with color := v }]

/-- The actions of rules under their names. -/
def ruleActions : List (String × Rule.Action) :=
  [Rule.Action.label, .ignore, .log].map fun a => (a.name, a)

/-- The members of a rule. -/
def ruleMembers : List (Member Rule) :=
  [.required "id" Decoder.text fun v r => { r with id := v },
    .required "condition" Decoder.text fun v r => { r with condition := v },
    .required "action" (Decoder.choice ruleActions) fun v r => { r with action := v },
    .optional "value" (Decoder.nullable Decoder.text) fun v r => { r with value := v },
    .optional "enabled" Decoder.flag fun v r => { r with enabled := v }]

/-- The members of the section on exports. -/
def ExportPart.members : List (Member ExportPart) :=
  [setting "template" Decoder.text fun v p => { p with template := v },
    setting "filename" Decoder.text fun v p => { p with filename := v },
    setting "includeHeader" Decoder.flag fun v p => { p with includeHeader := v }]

/-- The members of the section on the recording. -/
def RecordingPart.members : List (Member RecordingPart) :=
  [setting "autoStopSeconds" (Decoder.natural countLimit) fun v p => { p with autoStopSeconds := v },
    setting "enableLabeling" Decoder.flag fun v p => { p with enableLabeling := v }]

/-- The members of the section on the log. -/
def LogPart.members : List (Member LogPart) :=
  [setting "level" Decoder.text fun v p => { p with level := v },
    setting "persistToFile" Decoder.flag fun v p => { p with persistToFile := v },
    setting "maxEntries" (Decoder.natural countLimit) fun v p => { p with maxEntries := v }]

/-- The members of a quick command. -/
def quickCommandMembers : List (Member Transmit.QuickCommand) :=
  [.required "id" Decoder.text fun v c => { c with id := v },
    .optional "label" Decoder.text fun v c => { c with label := v },
    .required "command" Decoder.text fun v c => { c with command := v },
    .optional "enabled" Decoder.flag fun v c => { c with enabled := v }]

/-- The members of the command of a class. -/
def classCommandMembers : List (Member Transmit.ClassCommand) :=
  [.required "classId" Decoder.text fun v c => { c with classId := v },
    .required "command" Decoder.text fun v c => { c with command := v },
    .optional "enabled" Decoder.flag fun v c => { c with enabled := v }]

/-- The members of the commands of events. -/
def AutomatedPart.members : List (Member AutomatedPart) :=
  [setting "onConnect" Decoder.text fun v p => { p with onConnect := v },
    setting "onDisconnect" Decoder.text fun v p => { p with onDisconnect := v },
    setting "onRecordingStart" Decoder.text fun v p => { p with onRecordingStart := v },
    setting "onRecordingStop" Decoder.text fun v p => { p with onRecordingStop := v },
    setting "delayBetweenCommands" (Decoder.natural countLimit) fun v p => { p with delay := v }]

/-- The members of the section on the transmitter. -/
def TransmitPart.members : List (Member TransmitPart) :=
  [setting "enabled" Decoder.flag fun v p => { p with enabled := v },
    setting "encoding" Decoder.text fun v p => { p with encoding := v },
    setting "lineEnding" Decoder.text fun v p => { p with lineEnding := v },
    setting "quickCommands" (Decoder.list (Decoder.record quickCommandMembers ⟨"", "", "", true⟩))
      fun v p => { p with quickCommands := v },
    setting "classCommands" (Decoder.list (Decoder.record classCommandMembers ⟨"", "", true⟩))
      fun v p => { p with classCommands := v },
    nested "automatedCommands" AutomatedPart.members {} fun v p => { p with automated := v }]

namespace Document

/-- The sections of a document. -/
def members : List (Member Document) :=
  [nested "serial" SerialPart.members {} fun v d => { d with serial := v },
    nested "parser" LinePart.members {} fun v d => { d with line := v },
    setting "fields" (Decoder.list Decoder.text) fun v d => { d with fields := v },
    setting "classes" (Decoder.list (Decoder.record classMembers ⟨"", "", ""⟩)) fun v d => { d with classes := v },
    setting "rules" (Decoder.list (Decoder.record ruleMembers ⟨"", "", .label, none, true⟩))
      fun v d => { d with rules := v },
    nested "export" ExportPart.members {} fun v d => { d with exports := v },
    nested "recording" RecordingPart.members {} fun v d => { d with recording := v },
    nested "logging" LogPart.members {} fun v d => { d with log := v },
    nested "serialTx" TransmitPart.members {} fun v d => { d with transmit := v }]

/-- Reads a document. -/
def ofText (s : String) : Except Json.Cause Document :=
  Json.decodeText (Decoder.record members {}) s

end Document

end SampleRecorder.Settings
