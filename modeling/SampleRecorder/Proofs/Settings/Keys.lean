import SampleRecorder.Proofs.Json.Unknown
import SampleRecorder.Proofs.Settings.Names

/-!
# The keys of documents

Each key of a document has a part of the settings that it alone can change.  The table `keys` lists them with the way
in which their values are read and checked.  Documents are laid over settings key by key (`lays_apply`): a key that is
absent or `null` changes nothing, a value that passes its check takes the place of the kept one, and one that does not
pass leaves a warning.  Settings have no other parts (`eq_of_keys`), and what was set once passes its check again
(`isStable_of_mem`).
-/

namespace SampleRecorder.Settings

open Json (Decoder Member Raw Shape)

/-! ### The layout of documents -/

/-- The layout of the section on the line source. -/
def serialFields : List (String × Shape) :=
  [("baudRate", .value), ("delimiter", .value), ("encoding", .value), ("lineEnding", .value)]

/-- The layout of the section on the line parser. -/
def lineFields : List (String × Shape) :=
  [("type", .value), ("splitDelimiter", .value), ("regex", .value), ("regexGroups", .list .value),
    ("customParser", .value), ("skipLines", .list .value)]

/-- The layout of a class. -/
def classFields : List (String × Shape) :=
  [("id", .value), ("name", .value), ("color", .value)]

/-- The layout of a rule. -/
def ruleFields : List (String × Shape) :=
  [("id", .value), ("condition", .value), ("action", .value), ("value", .value), ("enabled", .value)]

/-- The layout of the section on exports. -/
def exportFields : List (String × Shape) :=
  [("template", .value), ("filename", .value), ("includeHeader", .value)]

/-- The layout of the section on the recording. -/
def recordingFields : List (String × Shape) :=
  [("autoStopSeconds", .value), ("enableLabeling", .value)]

/-- The layout of the section on the log. -/
def logFields : List (String × Shape) :=
  [("level", .value), ("persistToFile", .value), ("maxEntries", .value)]

/-- The layout of a quick command. -/
def quickCommandFields : List (String × Shape) :=
  [("id", .value), ("label", .value), ("command", .value), ("enabled", .value)]

/-- The layout of the command of a class. -/
def classCommandFields : List (String × Shape) :=
  [("classId", .value), ("command", .value), ("enabled", .value)]

/-- The layout of the commands of events. -/
def automatedFields : List (String × Shape) :=
  [("onConnect", .value), ("onDisconnect", .value), ("onRecordingStart", .value), ("onRecordingStop", .value),
    ("delayBetweenCommands", .value)]

/-- The layout of the section on the transmitter. -/
def transmitFields : List (String × Shape) :=
  [("enabled", .value), ("encoding", .value), ("lineEnding", .value),
    ("quickCommands", .list (.record quickCommandFields)), ("classCommands", .list (.record classCommandFields)),
    ("automatedCommands", .record automatedFields)]

/-- The layout of documents. -/
def shape : Shape :=
  .record [("serial", .record serialFields), ("parser", .record lineFields), ("fields", .list .value),
    ("classes", .list (.record classFields)), ("rules", .list (.record ruleFields)), ("export", .record exportFields),
    ("recording", .record recordingFields), ("logging", .record logFields), ("serialTx", .record transmitFields)]

/-! ### Checks -/

/-- The key that a warning is about. -/
def Warning.key : Warning → String
  | .outOfRange key _ _ _ _ => key
  | .empty key _ => key
  | .unsupported key _ _ _ => key
  | .unrecognised key _ _ _ => key

/-- The keys whose values are checked, in the order of the warnings about them. -/
def checkedKeys : List String :=
  ["serial.baudRate", "serial.delimiter", "serial.encoding", "fields", "recording.autoStopSeconds", "logging.level",
    "logging.maxEntries", "serialTx.encoding", "serialTx.automatedCommands.delayBetweenCommands"]

/-- What becomes of the value of a document beside the one that is kept: a new value or a warning. -/
abbrev Check (α β : Type) := α → β → Except Warning β

namespace Check

variable {α β : Type}

/-- Every value can be used. -/
def any : Check α α :=
  fun a _ => .ok a

/-- Every value can be used, and none stands where nothing was set. -/
def anySome : Check α (Option α) :=
  fun a _ => .ok (some a)

/-- Some values can be used, as something else perhaps; there is a warning about the others. -/
def guarded (use? : α → Option β) (warn : α → β → Warning) : Check α β :=
  fun a kept =>
    match use? a with
    | some b => .ok b
    | none => .error (warn a kept)

def between (key : String) (low high : Nat) : Check Nat Nat :=
  guarded (fun n => if low ≤ n ∧ n ≤ high then some n else none) fun n kept => .outOfRange key n low high kept

def delimiter : Check String String :=
  guarded (fun d => if d = "" then none else some d) fun _ _ => .empty "serial.delimiter" "delimiter"

/-- The encoding of the line source is kept as it was written. -/
def sourceEncoding : Check String String :=
  guarded (fun e => if small (Text.trim e.toList) ∈ sourceNames then some e else none)
    fun e kept => .unsupported "serial.encoding" e ["utf-8", "ascii", "latin1"] kept

def fields : Check (List String) (List String) :=
  guarded (fun fields => if fields = [] then none else some fields) fun _ _ => .empty "fields" "field list"

/-- A level is kept by its name in small letters. -/
def level : Check String String :=
  guarded (fun name => if small name.toList ∈ levels then some (small name.toList) else none)
    fun name kept => .unrecognised "logging.level" name levels kept

/-- The encoding of the transmitter is kept as what its name stands for. -/
def transmitEncoding : Check String Transmit.Encoding :=
  guarded (fun name => transmitNames.lookup (small (Text.trim name.toList)))
    fun name kept => .unsupported "serialTx.encoding" name ["utf-8", "ascii", "raw"] kept.label

/-- What is kept behind a check, with its warning if there is one. -/
def lay (check : Check α β) (new : Option α) (kept : β) : β × Option Warning :=
  match new with
  | none => (kept, none)
  | some a =>
    match check a kept with
    | .ok b => (b, none)
    | .error w => (kept, some w)

end Check

/-! ### The table of keys -/

/-- A key: its path in documents, how its value is read, where a document that was read holds it, how it is checked, and
the part of settings that it changes. -/
structure Key where
  {Read Kept : Type}
  path : List String
  decode : Decoder Read
  part : Document → Option Read
  check : Check Read Kept
  get : Settings → Kept

/-- The keys of the section on the line source. -/
def serialKeys : List Key :=
  [⟨["serial", "baudRate"], .natural baudLimit, (·.serial.baudRate), .between "serial.baudRate" 300 4000000,
      (·.serial.baudRate)⟩,
    ⟨["serial", "delimiter"], .text, (·.serial.delimiter), .delimiter, (·.serial.delimiter)⟩,
    ⟨["serial", "encoding"], .text, (·.serial.encoding), .sourceEncoding, (·.serial.encoding)⟩,
    ⟨["serial", "lineEnding"], .text, (·.serial.lineEnding), .any, (·.serial.lineEnding)⟩]

/-- The keys of the section on the line parser. -/
def lineKeys : List Key :=
  [⟨["parser", "type"], .choice lineKinds, (·.line.kind), .any, (·.line.kind)⟩,
    ⟨["parser", "splitDelimiter"], .text, (·.line.splitDelimiter), .anySome, (·.line.splitDelimiter)⟩,
    ⟨["parser", "regex"], .text, (·.line.regex), .anySome, (·.line.regex)⟩,
    ⟨["parser", "regexGroups"], .list .text, (·.line.regexGroups), .anySome, (·.line.regexGroups)⟩,
    ⟨["parser", "customParser"], .text, (·.line.customParser), .anySome, (·.line.customParser)⟩,
    ⟨["parser", "skipLines"], .list .text, (·.line.skipLines), .any, (·.line.skipLines)⟩]

/-- The keys that stand outside of sections. -/
def listKeys : List Key :=
  [⟨["fields"], .list .text, (·.fields), .fields, (·.fields)⟩,
    ⟨["classes"], .list (.record classMembers ⟨"", "", ""⟩), (·.classes), .any, (·.classes)⟩,
    ⟨["rules"], .list (.record ruleMembers ⟨"", "", .label, none, true⟩), (·.rules), .any, (·.rules)⟩]

/-- The keys of the section on exports. -/
def exportKeys : List Key :=
  [⟨["export", "template"], .text, (·.exports.template), .any, (·.exports.template)⟩,
    ⟨["export", "filename"], .text, (·.exports.filename), .any, (·.exports.filename)⟩,
    ⟨["export", "includeHeader"], .flag, (·.exports.includeHeader), .any, (·.exports.includeHeader)⟩]

/-- The keys of the section on the recording. -/
def recordingKeys : List Key :=
  [⟨["recording", "autoStopSeconds"], .natural countLimit, (·.recording.autoStopSeconds),
      .between "recording.autoStopSeconds" 0 86400, (·.recording.autoStopSeconds)⟩,
    ⟨["recording", "enableLabeling"], .flag, (·.recording.enableLabeling), .any, (·.recording.enableLabeling)⟩]

/-- The keys of the section on the log. -/
def logKeys : List Key :=
  [⟨["logging", "level"], .text, (·.log.level), .level, (·.log.level)⟩,
    ⟨["logging", "persistToFile"], .flag, (·.log.persistToFile), .any, (·.log.persistToFile)⟩,
    ⟨["logging", "maxEntries"], .natural countLimit, (·.log.maxEntries), .between "logging.maxEntries" 10 100000,
      (·.log.maxEntries)⟩]

/-- The keys of the section on the transmitter. -/
def transmitKeys : List Key :=
  [⟨["serialTx", "enabled"], .flag, (·.transmit.enabled), .any, (·.transmit.enabled)⟩,
    ⟨["serialTx", "encoding"], .text, (·.transmit.encoding), .transmitEncoding, (·.transmit.encoding)⟩,
    ⟨["serialTx", "lineEnding"], .text, (·.transmit.lineEnding), .any, (·.transmit.lineEnding)⟩,
    ⟨["serialTx", "quickCommands"], .list (.record quickCommandMembers ⟨"", "", "", true⟩), (·.transmit.quickCommands),
      .any, (·.transmit.quickCommands)⟩,
    ⟨["serialTx", "classCommands"], .list (.record classCommandMembers ⟨"", "", true⟩), (·.transmit.classCommands),
      .any, (·.transmit.classCommands)⟩,
    ⟨["serialTx", "automatedCommands", "onConnect"], .text, (·.transmit.automated.onConnect), .any,
      (·.transmit.automated.onConnect)⟩,
    ⟨["serialTx", "automatedCommands", "onDisconnect"], .text, (·.transmit.automated.onDisconnect), .any,
      (·.transmit.automated.onDisconnect)⟩,
    ⟨["serialTx", "automatedCommands", "onRecordingStart"], .text, (·.transmit.automated.onRecordingStart), .any,
      (·.transmit.automated.onRecordingStart)⟩,
    ⟨["serialTx", "automatedCommands", "onRecordingStop"], .text, (·.transmit.automated.onRecordingStop), .any,
      (·.transmit.automated.onRecordingStop)⟩,
    ⟨["serialTx", "automatedCommands", "delayBetweenCommands"], .natural countLimit, (·.transmit.automated.delay),
      .between "serialTx.automatedCommands.delayBetweenCommands" 0 60000, (·.transmit.automated.delay)⟩]

/-- All keys, in the order in which their sections are declared. -/
def keys : List Key :=
  serialKeys ++ lineKeys ++ listKeys ++ exportKeys ++ recordingKeys ++ logKeys ++ transmitKeys

/-- What a key makes of the kept value, from what stands at its path: the value behind it, and its warning. -/
inductive Key.Lays (k : Key) : Option Raw → k.Kept → k.Kept → Option Warning → Prop where
  | absent {kept : k.Kept} : k.Lays none kept kept none
  | null {kept : k.Kept} : k.Lays (some .null) kept kept none
  | valid {v : Raw} {a : k.Read} {kept new : k.Kept} : v ≠ .null → k.decode v = .ok a → k.check a kept = .ok new →
      k.Lays (some v) kept new none
  | invalid {v : Raw} {a : k.Read} {kept : k.Kept} {w : Warning} : v ≠ .null → k.decode v = .ok a →
      k.check a kept = .error w → k.Lays (some v) kept kept (some w)

/-! ### What a document holds -/

/-- A document that was read holds for a key what stands at its path. -/
def Key.Holds (k : Key) (raw : Raw) (d : Document) : Prop :=
  (raw.at? shape k.path).elim (.ok none) (Decoder.nullable k.decode) = .ok (k.part d)

section Fills

variable {α β σ : Type}

theorem map_id_nullable (decode : Decoder α) :
    (fun v => (Decoder.nullable decode v).map id) = Decoder.nullable decode := by
  funext v
  cases Decoder.nullable decode v <;> rfl

@[simp] theorem fills_setting (key : String) (decode : Decoder α) {set : Option α → σ → σ} {part : σ → Option α}
    (h : ∀ v s, part (set v s) = v) : Member.Fills key (Decoder.nullable decode) part (setting key decode set) := by
  have hfills := Member.fills_optional (f := id) key (Decoder.nullable decode) h
  rwa [map_id_nullable] at hfills

@[simp] theorem fills_setting_of_ne {key other : String} (hk : other ≠ key) (d : Decoder β) (decode : Decoder α)
    {set : Option α → σ → σ} {part : σ → β} (h : ∀ v s, part (set v s) = part s) :
    Member.Fills key d part (setting other decode set) :=
  Member.fills_optional_of_ne hk d _ h

@[simp] theorem fills_nested (key : String) (members : List (Member α)) (start : α) {set : α → σ → σ} {part : σ → α}
    (h : ∀ v s, part (set v s) = v) :
    Member.Fills key (Decoder.withDefault start (Decoder.record members start)) part (nested key members start set) :=
  Member.fills_optional key _ fun v s => h (v.getD start) s

@[simp] theorem fills_nested_of_ne {key other : String} (hk : other ≠ key) (d : Decoder β) (members : List (Member α))
    (start : α) {set : α → σ → σ} {part : σ → β} (h : ∀ v s, part (set v s) = part s) :
    Member.Fills key d part (nested other members start set) :=
  Member.fills_optional_of_ne hk d _ fun v s => h (v.getD start) s

end Fills

section Holds

variable {raw : Raw} {d : Document}

/-- A document is read from its own place. -/
theorem at?_nil (h : Decoder.record Document.members {} raw = .ok d) :
    (raw.at? shape []).elim (.ok {}) (Decoder.withDefault {} (Decoder.record Document.members {})) = .ok d := by
  have hraw : raw ≠ .null := by
    rintro rfl
    cases h
  rw [Raw.at?, Option.elim_some, Decoder.withDefault, Decoder.nullable_of_ne _ hraw, h]
  rfl

theorem holds_serialKeys (h : Decoder.record Document.members {} raw = .ok d) :
    ∀ k ∈ serialKeys, k.Holds raw d := by
  have hsection := Json.member_at "serial" (Decoder.withDefault {} (Decoder.record SerialPart.members {}))
    (·.serial) (at?_nil h) rfl rfl (by decide) rfl (by simp [Document.members])
  have hpart {α : Type} (key : String) (decode : Decoder α) (part : SerialPart → Option α) :=
    Json.member_at key (Decoder.nullable decode) part hsection rfl rfl (by decide)
  simp only [serialKeys, List.forall_mem_cons]
  refine ⟨hpart "baudRate" _ (·.baudRate) rfl (by simp [SerialPart.members]),
    hpart "delimiter" _ (·.delimiter) rfl (by simp [SerialPart.members]),
    hpart "encoding" _ (·.encoding) rfl (by simp [SerialPart.members]),
    hpart "lineEnding" _ (·.lineEnding) rfl (by simp [SerialPart.members]), by simp⟩

theorem holds_lineKeys (h : Decoder.record Document.members {} raw = .ok d) :
    ∀ k ∈ lineKeys, k.Holds raw d := by
  have hsection := Json.member_at "parser" (Decoder.withDefault {} (Decoder.record LinePart.members {}))
    (·.line) (at?_nil h) rfl rfl (by decide) rfl (by simp [Document.members])
  have hpart {α : Type} (key : String) (decode : Decoder α) (part : LinePart → Option α) :=
    Json.member_at key (Decoder.nullable decode) part hsection rfl rfl (by decide)
  simp only [lineKeys, List.forall_mem_cons]
  refine ⟨hpart "type" _ (·.kind) rfl (by simp [LinePart.members]),
    hpart "splitDelimiter" _ (·.splitDelimiter) rfl (by simp [LinePart.members]),
    hpart "regex" _ (·.regex) rfl (by simp [LinePart.members]),
    hpart "regexGroups" _ (·.regexGroups) rfl (by simp [LinePart.members]),
    hpart "customParser" _ (·.customParser) rfl (by simp [LinePart.members]),
    hpart "skipLines" _ (·.skipLines) rfl (by simp [LinePart.members]), by simp⟩

theorem holds_listKeys (h : Decoder.record Document.members {} raw = .ok d) :
    ∀ k ∈ listKeys, k.Holds raw d := by
  have hpart {α : Type} (key : String) (decode : Decoder α) (part : Document → Option α) :=
    Json.member_at key (Decoder.nullable decode) part (at?_nil h) rfl rfl (by decide)
  simp only [listKeys, List.forall_mem_cons]
  refine ⟨hpart "fields" _ (·.fields) rfl (by simp [Document.members]),
    hpart "classes" _ (·.classes) rfl (by simp [Document.members]),
    hpart "rules" _ (·.rules) rfl (by simp [Document.members]), by simp⟩

theorem holds_exportKeys (h : Decoder.record Document.members {} raw = .ok d) :
    ∀ k ∈ exportKeys, k.Holds raw d := by
  have hsection := Json.member_at "export" (Decoder.withDefault {} (Decoder.record ExportPart.members {}))
    (·.exports) (at?_nil h) rfl rfl (by decide) rfl (by simp [Document.members])
  have hpart {α : Type} (key : String) (decode : Decoder α) (part : ExportPart → Option α) :=
    Json.member_at key (Decoder.nullable decode) part hsection rfl rfl (by decide)
  simp only [exportKeys, List.forall_mem_cons]
  refine ⟨hpart "template" _ (·.template) rfl (by simp [ExportPart.members]),
    hpart "filename" _ (·.filename) rfl (by simp [ExportPart.members]),
    hpart "includeHeader" _ (·.includeHeader) rfl (by simp [ExportPart.members]), by simp⟩

theorem holds_recordingKeys (h : Decoder.record Document.members {} raw = .ok d) :
    ∀ k ∈ recordingKeys, k.Holds raw d := by
  have hsection := Json.member_at "recording" (Decoder.withDefault {} (Decoder.record RecordingPart.members {}))
    (·.recording) (at?_nil h) rfl rfl (by decide) rfl (by simp [Document.members])
  have hpart {α : Type} (key : String) (decode : Decoder α) (part : RecordingPart → Option α) :=
    Json.member_at key (Decoder.nullable decode) part hsection rfl rfl (by decide)
  simp only [recordingKeys, List.forall_mem_cons]
  refine ⟨hpart "autoStopSeconds" _ (·.autoStopSeconds) rfl (by simp [RecordingPart.members]),
    hpart "enableLabeling" _ (·.enableLabeling) rfl (by simp [RecordingPart.members]), by simp⟩

theorem holds_logKeys (h : Decoder.record Document.members {} raw = .ok d) :
    ∀ k ∈ logKeys, k.Holds raw d := by
  have hsection := Json.member_at "logging" (Decoder.withDefault {} (Decoder.record LogPart.members {}))
    (·.log) (at?_nil h) rfl rfl (by decide) rfl (by simp [Document.members])
  have hpart {α : Type} (key : String) (decode : Decoder α) (part : LogPart → Option α) :=
    Json.member_at key (Decoder.nullable decode) part hsection rfl rfl (by decide)
  simp only [logKeys, List.forall_mem_cons]
  refine ⟨hpart "level" _ (·.level) rfl (by simp [LogPart.members]),
    hpart "persistToFile" _ (·.persistToFile) rfl (by simp [LogPart.members]),
    hpart "maxEntries" _ (·.maxEntries) rfl (by simp [LogPart.members]), by simp⟩

theorem holds_transmitKeys (h : Decoder.record Document.members {} raw = .ok d) :
    ∀ k ∈ transmitKeys, k.Holds raw d := by
  have hsection := Json.member_at "serialTx" (Decoder.withDefault {} (Decoder.record TransmitPart.members {}))
    (·.transmit) (at?_nil h) rfl rfl (by decide) rfl (by simp [Document.members])
  have hpart {α : Type} (key : String) (decode : Decoder α) (part : TransmitPart → Option α) :=
    Json.member_at key (Decoder.nullable decode) part hsection rfl rfl (by decide)
  have hinner := Json.member_at "automatedCommands" (Decoder.withDefault {} (Decoder.record AutomatedPart.members {}))
    (·.automated) hsection rfl rfl (by decide) rfl (by simp [TransmitPart.members])
  have hcommand {α : Type} (key : String) (decode : Decoder α) (part : AutomatedPart → Option α) :=
    Json.member_at key (Decoder.nullable decode) part hinner rfl rfl (by decide)
  simp only [transmitKeys, List.forall_mem_cons]
  refine ⟨hpart "enabled" _ (·.enabled) rfl (by simp [TransmitPart.members]),
    hpart "encoding" _ (·.encoding) rfl (by simp [TransmitPart.members]),
    hpart "lineEnding" _ (·.lineEnding) rfl (by simp [TransmitPart.members]),
    hpart "quickCommands" _ (·.quickCommands) rfl (by simp [TransmitPart.members]),
    hpart "classCommands" _ (·.classCommands) rfl (by simp [TransmitPart.members]),
    hcommand "onConnect" _ (·.onConnect) rfl (by simp [AutomatedPart.members]),
    hcommand "onDisconnect" _ (·.onDisconnect) rfl (by simp [AutomatedPart.members]),
    hcommand "onRecordingStart" _ (·.onRecordingStart) rfl (by simp [AutomatedPart.members]),
    hcommand "onRecordingStop" _ (·.onRecordingStop) rfl (by simp [AutomatedPart.members]),
    hcommand "delayBetweenCommands" _ (·.delay) rfl (by simp [AutomatedPart.members]), by simp⟩

/-- A document that was read holds for every key what stands at its path. -/
theorem holds_of_mem (h : Decoder.record Document.members {} raw = .ok d) :
    ∀ k ∈ keys, k.Holds raw d := by
  simp only [keys, List.forall_mem_append]
  exact ⟨⟨⟨⟨⟨⟨holds_serialKeys h, holds_lineKeys h⟩, holds_listKeys h⟩, holds_exportKeys h⟩, holds_recordingKeys h⟩,
    holds_logKeys h⟩, holds_transmitKeys h⟩

end Holds

/-! ### What is laid over settings -/

section Lay

variable {α β : Type}

@[simp] theorem lay_none (check : Check α β) (kept : β) : check.lay none kept = (kept, none) :=
  rfl

@[simp] theorem lay_any (new : Option α) (kept : α) : Check.any.lay new kept = (new.getD kept, none) := by
  cases new <;> rfl

@[simp] theorem lay_anySome (new kept : Option α) : Check.anySome.lay new kept = (new.or kept, none) := by
  cases new <;> rfl

theorem inRange_eq_lay (key : String) (low high : Nat) (new : Option Nat) (kept : Nat) :
    inRange key low high new kept =
      (((Check.between key low high).lay new kept).1, ((Check.between key low high).lay new kept).2.toList) := by
  cases new with
  | none => rfl
  | some n => by_cases h : low ≤ n ∧ n ≤ high <;> simp [inRange, Check.lay, Check.between, Check.guarded, h]

theorem apply_serial (p : SerialPart) (s : Source.Settings) :
    p.apply s =
      let baudRate := (Check.between "serial.baudRate" 300 4000000).lay p.baudRate s.baudRate
      let delimiter := Check.delimiter.lay p.delimiter s.delimiter
      let encoding := Check.sourceEncoding.lay p.encoding s.encoding
      (⟨baudRate.1, delimiter.1, encoding.1, p.lineEnding.getD s.lineEnding⟩,
        baudRate.2.toList ++ delimiter.2.toList ++ encoding.2.toList) := by
  obtain ⟨baudRate, delimiter, encoding, lineEnding⟩ := p
  rcases delimiter with _ | d <;> rcases encoding with _ | e <;>
    simp only [SerialPart.apply, inRange_eq_lay, Check.lay, Check.delimiter, Check.sourceEncoding, Check.guarded,
      isSome_ofName?] <;>
    (try split_ifs) <;> rfl

theorem apply_fieldList (new : Option (List String)) (old : List String) :
    applyFields new old = ((Check.fields.lay new old).1, (Check.fields.lay new old).2.toList) := by
  rcases new with _ | _ | ⟨a, rest⟩ <;> rfl

theorem apply_recording (p : RecordingPart) (s : Recording.Settings) :
    p.apply s =
      let seconds := (Check.between "recording.autoStopSeconds" 0 86400).lay p.autoStopSeconds s.autoStopSeconds
      (⟨seconds.1, p.enableLabeling.getD s.enableLabeling⟩, seconds.2.toList) := by
  simp only [RecordingPart.apply, inRange_eq_lay, autoStopLimit]

theorem apply_log (p : LogPart) (s : Log.Settings) :
    p.apply s =
      let level := Check.level.lay p.level s.level
      let entries := (Check.between "logging.maxEntries" 10 100000).lay p.maxEntries s.maxEntries
      (⟨level.1, p.persistToFile.getD s.persistToFile, entries.1⟩, level.2.toList ++ entries.2.toList) := by
  obtain ⟨level, persistToFile, maxEntries⟩ := p
  cases level with
  | none => simp only [LogPart.apply, inRange_eq_lay, lay_none, Option.toList_none]
  | some l =>
    simp only [LogPart.apply, inRange_eq_lay, Check.lay, Check.level, Check.guarded, levelName?_eq]
    split_ifs <;> rfl

theorem apply_automated (p : AutomatedPart) (s : Transmit.Automated) :
    p.apply s =
      let delay := (Check.between "serialTx.automatedCommands.delayBetweenCommands" 0 60000).lay p.delay s.delay
      (⟨p.onConnect.getD s.onConnect, p.onDisconnect.getD s.onDisconnect, p.onRecordingStart.getD s.onRecordingStart,
        p.onRecordingStop.getD s.onRecordingStop, delay.1⟩, delay.2.toList) := by
  simp only [AutomatedPart.apply, inRange_eq_lay]

theorem apply_transmit (p : TransmitPart) (s : Transmit.Settings) :
    p.apply s =
      let encoding := Check.transmitEncoding.lay p.encoding s.encoding
      let automated := p.automated.apply s.automated
      (⟨p.enabled.getD s.enabled, encoding.1, p.lineEnding.getD s.lineEnding, p.quickCommands.getD s.quickCommands,
        p.classCommands.getD s.classCommands, automated.1⟩, encoding.2.toList ++ automated.2) := by
  obtain ⟨enabled, encoding, lineEnding, quickCommands, classCommands, automated⟩ := p
  rcases encoding with _ | e
  · rfl
  · simp only [TransmitPart.apply, Check.lay, Check.transmitEncoding, Check.guarded, transmitOfName?_eq]
    cases transmitNames.lookup (small (Text.trim e.toList)) <;> rfl

end Lay

/-- Every key lays its value over its own part of settings. -/
theorem get_apply (d : Document) (s : Settings) :
    ∀ k ∈ keys, k.get (d.apply s).1 = (k.check.lay (k.part d) (k.get s)).1 := by
  simp [keys, serialKeys, lineKeys, listKeys, exportKeys, recordingKeys, logKeys, transmitKeys, Document.apply,
    apply_serial, apply_fieldList, apply_recording, apply_log, apply_automated, apply_transmit, LinePart.apply,
    ExportPart.apply]

/-- The warnings of a document are those of its keys, in their order. -/
theorem warnings_apply (d : Document) (s : Settings) :
    (d.apply s).2 = keys.filterMap fun k => (k.check.lay (k.part d) (k.get s)).2 := by
  simp only [List.filterMap_eq_flatMap_toList, keys, serialKeys, lineKeys, listKeys, exportKeys, recordingKeys,
    logKeys, transmitKeys, List.flatMap_append, List.flatMap_cons, List.flatMap_nil, lay_any, lay_anySome,
    Option.toList_none, Document.apply, apply_serial, apply_fieldList, apply_recording, apply_log, apply_automated,
    apply_transmit, List.nil_append, List.append_nil, List.append_assoc]

/-- A check that warns about one key only. -/
def Check.Names {α β : Type} (key : String) (check : Check α β) : Prop :=
  ∀ a kept w, check a kept = .error w → w.key = key

section Names

variable {α β : Type}

theorem names_guarded {key : String} {use? : α → Option β} {warn : α → β → Warning}
    (h : ∀ a kept, (warn a kept).key = key) : Check.Names key (.guarded use? warn) := by
  intro a kept w hw
  unfold Check.guarded at hw
  split at hw
  · cases hw
  · cases hw
    exact h a kept

theorem names_between (key : String) (low high : Nat) : Check.Names key (.between key low high) :=
  names_guarded fun _ _ => rfl

theorem names_delimiter : Check.Names "serial.delimiter" .delimiter :=
  names_guarded fun _ _ => rfl

theorem names_sourceEncoding : Check.Names "serial.encoding" .sourceEncoding :=
  names_guarded fun _ _ => rfl

theorem names_fields : Check.Names "fields" .fields :=
  names_guarded fun _ _ => rfl

theorem names_level : Check.Names "logging.level" .level :=
  names_guarded fun _ _ => rfl

theorem names_transmitEncoding : Check.Names "serialTx.encoding" .transmitEncoding :=
  names_guarded fun _ _ => rfl

theorem Check.Names.sublist {key : String} {check : Check α β} (h : check.Names key) (new : Option α) (kept : β) :
    ((check.lay new kept).2.toList.map Warning.key).Sublist [key] := by
  cases new with
  | none => exact List.nil_sublist _
  | some a =>
    unfold Check.lay
    dsimp only
    split
    · exact List.nil_sublist _
    · next w hw => simp [h a kept w hw]

end Names

/-- There is at most one warning about each of the keys that are checked, and the warnings keep the order of the keys. -/
theorem checked_apply (d : Document) (s : Settings) : ((d.apply s).2.map Warning.key).Sublist checkedKeys := by
  simp only [Document.apply, apply_serial, apply_fieldList, apply_recording, apply_log, apply_automated, apply_transmit,
    List.map_append, List.append_assoc]
  exact ((names_between _ _ _).sublist _ _).append <| (names_delimiter.sublist _ _).append <|
    (names_sourceEncoding.sublist _ _).append <| (names_fields.sublist _ _).append <|
    ((names_between _ _ _).sublist _ _).append <| (names_level.sublist _ _).append <|
    ((names_between _ _ _).sublist _ _).append <| (names_transmitEncoding.sublist _ _).append <|
    (names_between _ _ _).sublist _ _

/-! ### Keys side by side -/

section Lays

variable {k : Key} {found : Option Raw} {kept new new' : k.Kept} {w w' : Option Warning}

/-- A key lays over what is kept the value that is read from what stands at its path. -/
theorem Key.lays_iff : k.Lays found kept new w ↔
    ∃ o, found.elim (.ok none) (Decoder.nullable k.decode) = .ok o ∧ k.check.lay o kept = (new, w) := by
  constructor
  · intro h
    cases h with
    | absent => exact ⟨none, rfl, rfl⟩
    | null => exact ⟨none, rfl, rfl⟩
    | @valid v a _ _ hv ha hcheck =>
      refine ⟨some a, ?_, by rw [Check.lay, hcheck]⟩
      rw [Option.elim_some, Decoder.nullable_of_ne _ hv, ha]
      rfl
    | @invalid v a _ _ hv ha hcheck =>
      refine ⟨some a, ?_, by rw [Check.lay, hcheck]⟩
      rw [Option.elim_some, Decoder.nullable_of_ne _ hv, ha]
      rfl
  · rintro ⟨o, ho, hlay⟩
    cases found with
    | none =>
      cases ho
      cases hlay
      exact .absent
    | some v =>
      by_cases hv : v = .null
      · subst hv
        cases ho
        cases hlay
        exact .null
      · rw [Option.elim_some, Decoder.nullable_of_ne _ hv] at ho
        cases ha : k.decode v with
        | error c =>
          rw [ha] at ho
          cases ho
        | ok a =>
          rw [ha] at ho
          cases ho
          cases hcheck : k.check a kept with
          | ok b =>
            rw [Check.lay, hcheck] at hlay
            cases hlay
            exact .valid hv ha hcheck
          | error w =>
            rw [Check.lay, hcheck] at hlay
            cases hlay
            exact .invalid hv ha hcheck

theorem Key.Holds.lays {raw : Raw} {d : Document} (h : k.Holds raw d) (kept : k.Kept) :
    k.Lays (raw.at? shape k.path) kept (k.check.lay (k.part d) kept).1 (k.check.lay (k.part d) kept).2 :=
  Key.lays_iff.mpr ⟨k.part d, h, rfl⟩

/-- There is only one way in which a key is laid over what is kept. -/
theorem Key.Lays.unique (h : k.Lays found kept new w) (h' : k.Lays found kept new' w') : new = new' ∧ w = w' := by
  obtain ⟨o, ho, hlay⟩ := Key.lays_iff.mp h
  obtain ⟨o', ho', hlay'⟩ := Key.lays_iff.mp h'
  obtain rfl : o = o' := Except.ok.inj (ho.symm.trans ho')
  exact Prod.mk.inj (hlay.symm.trans hlay')

end Lays

/-- A check whose answer stays the same beside what has come out of it. -/
def Check.IsStable {α β : Type} (check : Check α β) : Prop :=
  ∀ a kept new, check a kept = .ok new → check a new = .ok new

section IsStable

variable {α β : Type}

@[simp] theorem isStable_any : (Check.any : Check α α).IsStable :=
  fun _ _ _ h => h

@[simp] theorem isStable_anySome : (Check.anySome : Check α (Option α)).IsStable :=
  fun _ _ _ h => h

@[simp] theorem isStable_guarded (use? : α → Option β) (warn : α → β → Warning) :
    (Check.guarded use? warn).IsStable := by
  intro a kept new h
  unfold Check.guarded at h ⊢
  split at h
  · exact h
  · cases h

end IsStable

theorem isStable_of_mem : ∀ k ∈ keys, k.check.IsStable := by
  simp [keys, serialKeys, lineKeys, listKeys, exportKeys, recordingKeys, logKeys, transmitKeys, Check.between,
    Check.delimiter, Check.sourceEncoding, Check.fields, Check.level, Check.transmitEncoding]

/-- What was laid once is laid again in the same way, with the same warning. -/
theorem Key.Lays.again {k : Key} (hk : k.check.IsStable) {found : Option Raw} {kept new : k.Kept} {w : Option Warning}
    (h : k.Lays found kept new w) : k.Lays found new new w := by
  cases h with
  | absent => exact .absent
  | null => exact .null
  | valid hv ha hcheck => exact .valid hv ha (hk _ _ _ hcheck)
  | invalid hv ha hcheck => exact .invalid hv ha hcheck

/-- Settings have no parts but those of the keys. -/
theorem eq_of_keys {s t : Settings} (h : ∀ k ∈ keys, k.get s = k.get t) : s = t := by
  obtain ⟨⟨_, _, _, _⟩, ⟨_, _, _, _, _, _⟩, _, _, _, ⟨_, _, _⟩, ⟨_, _⟩, ⟨_, _, _⟩, ⟨_, _, _, _, _, ⟨_, _, _, _, _⟩⟩⟩ := s
  obtain ⟨⟨_, _, _, _⟩, ⟨_, _, _, _, _, _⟩, _, _, _, ⟨_, _, _⟩, ⟨_, _⟩, ⟨_, _, _⟩, ⟨_, _, _, _, _, ⟨_, _, _, _, _⟩⟩⟩ := t
  simp [keys, serialKeys, lineKeys, listKeys, exportKeys, recordingKeys, logKeys, transmitKeys] at h
  simp [h]

/-- A document is laid over settings key by key, and its warnings are those of its keys, in their order. -/
theorem lays_apply {raw : Raw} {d : Document} (h : Decoder.record Document.members {} raw = .ok d) (s : Settings) :
    ∃ warned : Key → Option Warning, (d.apply s).2 = keys.filterMap warned ∧
      ∀ k ∈ keys, k.Lays (raw.at? shape k.path) (k.get s) (k.get (d.apply s).1) (warned k) := by
  refine ⟨_, warnings_apply d s, fun k hk => ?_⟩
  rw [get_apply d s k hk]
  exact (holds_of_mem h k hk).lays (k.get s)

end SampleRecorder.Settings
