import SampleRecorder.Proofs.Json.Record
import SampleRecorder.Proofs.Settings.Names

/-!
# Settings that are read back

Settings come from documents that are laid over the defaults one after the other.  All that is loaded in this way is
within the ranges that documents are checked for (`Loaded.valid`), so the text that such settings are written as is
read without a warning, and as the same settings (`Loaded.ofText_text`).
-/

namespace SampleRecorder.Settings

open Json (Decoder Raw)

/-- Settings within the ranges that documents are checked for. -/
structure WithinLimits (s : Settings) : Prop where
  baudRate : 300 ≤ s.serial.baudRate ∧ s.serial.baudRate ≤ 4000000
  delimiter : s.serial.delimiter ≠ ""
  encoding : small (Text.trim s.serial.encoding.toList) ∈ sourceNames
  fields : s.fields ≠ []
  autoStopSeconds : 0 ≤ s.recording.autoStopSeconds ∧ s.recording.autoStopSeconds ≤ 86400
  level : s.log.level ∈ levels
  maxEntries : 10 ≤ s.log.maxEntries ∧ s.log.maxEntries ≤ 100000
  delay : 0 ≤ s.transmit.automated.delay ∧ s.transmit.automated.delay ≤ 60000

/-- Settings that a document may hold without a warning.  The delimiter of a split has to be set, as its absence from
a document stands for the default. -/
structure Valid (s : Settings) : Prop extends WithinLimits s where
  splitDelimiter : s.line.splitDelimiter.isSome

/-- Settings that documents lead to: those of a first one, changed by any number of others. -/
inductive Loaded : Settings → Prop where
  | first {text s warnings} : (ofText text).value = .ok (s, warnings) → Loaded s
  | next {text s s' warnings} : Loaded s → (merge s text).value = .ok (s', warnings) → Loaded s'

/-! ### Documents keep settings valid -/

theorem valid_default : Valid {} where
  baudRate := by decide
  delimiter := by decide
  encoding := by decide
  splitDelimiter := by decide
  fields := by decide
  autoStopSeconds := by decide
  level := by decide
  maxEntries := by decide
  delay := by decide

theorem inRange_bounds (key : String) {low high old : Nat} (new : Option Nat) (h : low ≤ old ∧ old ≤ high) :
    low ≤ (inRange key low high new old).1 ∧ (inRange key low high new old).1 ≤ high := by
  unfold inRange
  split
  · exact h
  · split
    · next hn => exact hn
    · exact h

theorem mem_levels {name level : String} (h : levelName? name = some level) : level ∈ levels := by
  rw [levelName?_eq] at h
  split at h
  · next hsmall => exact Option.some.inj h ▸ hsmall
  · cases h

theorem withinLimits_apply (d : Document) {s : Settings} (h : s.WithinLimits) : (d.apply s).1.WithinLimits where
  baudRate := inRange_bounds _ _ h.baudRate
  delimiter := by
    simp only [Document.apply, SerialPart.apply]
    split
    · exact h.delimiter
    · split
      · exact h.delimiter
      · next hd => exact hd
  encoding := by
    simp only [Document.apply, SerialPart.apply]
    split
    · exact h.encoding
    · split
      · next he => exact (isSome_ofName? _).mp he
      · exact h.encoding
  fields := by
    simp only [Document.apply, applyFields]
    split
    · exact h.fields
    · exact h.fields
    · next hf _ => exact hf
  autoStopSeconds := inRange_bounds _ _ h.autoStopSeconds
  level := by
    simp only [Document.apply, LogPart.apply]
    split
    · exact h.level
    · split
      · next hl => exact mem_levels hl
      · exact h.level
  maxEntries := inRange_bounds _ _ h.maxEntries
  delay := inRange_bounds _ _ h.delay

theorem valid_apply (d : Document) {s : Settings} (h : s.Valid) : (d.apply s).1.Valid where
  toWithinLimits := withinLimits_apply d h.toWithinLimits
  -- a delimiter that is set can be replaced but not taken away
  splitDelimiter := by
    simp only [Document.apply, LinePart.apply, Option.orElse_eq_orElse]
    cases d.line.splitDelimiter with
    | none => exact h.splitDelimiter
    | some _ => rfl

/-- What a text changes is what its document says. -/
theorem value_merge {s s' : Settings} {text : String} {warnings : List Warning}
    (h : (merge s text).value = .ok (s', warnings)) :
    ∃ d, Document.ofText text = .ok d ∧ d.apply s = (s', warnings) := by
  unfold merge at h
  split at h
  · cases h
  · next d hd => exact ⟨d, hd, Except.ok.inj h⟩

theorem Loaded.valid {s : Settings} (h : Loaded s) : s.Valid := by
  induction h with
  | first h =>
    obtain ⟨d, -, hd⟩ := value_merge h
    have := valid_apply d valid_default
    rwa [hd] at this
  | next _ h ih =>
    obtain ⟨d, -, hd⟩ := value_merge h
    have := valid_apply d ih
    rwa [hd] at this

/-! ### Written settings as documents -/

/-- A member that is set is put into a record. -/
theorem enter_setting {α σ : Type} (members : List (Json.Member σ)) (key : String) {decode : Decoder α}
    {set : Option α → σ → σ} (hm : members.find? (·.key == key) = some (setting key decode set)) {j : Json} {a : α}
    (hj : j ≠ .null) (h : decode (Raw.ofJson j) = .ok a) (s : σ) :
    Json.Member.enter members s (key, j) = .ok (set (some a) s) := by
  rw [Json.Member.enter, hm]
  exact congrArg (Except.map _) (Decoder.nullable_ofJson hj h)

/-- A member that is written only where it is set leaves a record alone where it is not. -/
theorem enter_whenSet {α σ : Type} (members : List (Json.Member σ)) (key : String) {decode : Decoder α}
    {set : Option α → σ → σ} (hm : members.find? (·.key == key) = some (setting key decode set)) {toJson : α → Json}
    (h : ∀ a, toJson a ≠ .null ∧ decode (Raw.ofJson (toJson a)) = .ok a) (v : Option α) {s : σ} (hs : set none s = s) :
    (Json.whenSet key (v.map toJson)).foldlM (Json.Member.enter members) s = .ok (set v s) := by
  cases v with
  | none => exact congrArg Except.ok hs.symm
  | some a => simp [Json.whenSet, enter_setting members key hm (h a).1 (h a).2]

theorem keys_whenSet (key : String) (value : Option Json) :
    ((Json.whenSet key value).map Prod.fst).Sublist [key] := by
  cases value with
  | none => exact List.nil_sublist _
  | some _ => exact List.Sublist.refl _

/-- The section that sets all of the line source. -/
def serialPart (s : Source.Settings) : SerialPart where
  baudRate := some s.baudRate
  delimiter := some s.delimiter
  encoding := some s.encoding
  lineEnding := some s.lineEnding

theorem record_serial {s : Source.Settings} (h : s.baudRate ≤ 4000000) :
    Decoder.record SerialPart.members {} (Raw.ofJson s.toJson) = .ok (serialPart s) := by
  have hbaud : Decoder.natural baudLimit (Raw.ofJson (.int s.baudRate)) = .ok s.baudRate :=
    Decoder.natural_ofJson (Nat.le_trans h (by decide))
  rw [Source.Settings.toJson, Decoder.record_ofJson ["baudRate", "delimiter", "encoding", "lineEnding"] rfl (by decide)
    (by decide)]
  simp [Json.Member.enter, SerialPart.members, setting, Json.Member.optional, Decoder.nullable_ofJson, hbaud,
    Decoder.text_ofJson, Except.map, bind, Except.bind, pure, Except.pure, serialPart]

/-- The section that sets of the line parser what is set. -/
def linePart (s : Line.Settings) : LinePart where
  kind := some s.kind
  splitDelimiter := s.splitDelimiter
  regex := s.regex
  regexGroups := s.regexGroups
  customParser := s.customParser
  skipLines := some s.skipLines

theorem record_line (s : Line.Settings) :
    Decoder.record LinePart.members {} (Raw.ofJson s.toJson) = .ok (linePart s) := by
  have hkind : Decoder.choice lineKinds (Raw.ofJson (.str s.kind.label)) = .ok s.kind :=
    Decoder.choice_ofJson (by cases s.kind <;> rfl)
  have htext (t : String) : Json.str t ≠ .null ∧ Decoder.text (Raw.ofJson (.str t)) = .ok t :=
    ⟨Json.noConfusion, rfl⟩
  have htexts (l : List String) : Json.strings l ≠ .null ∧
      Decoder.list Decoder.text (Raw.ofJson (.strings l)) = .ok l :=
    ⟨Json.noConfusion, Decoder.list_ofJson Decoder.text_ofJson l⟩
  -- members that may be left out, each at a part in which it is not set yet
  have hdelimiter (p : LinePart) (hp : p.splitDelimiter = none) :=
    enter_whenSet LinePart.members "splitDelimiter" rfl htext s.splitDelimiter (s := p)
      (by rw [← hp])
  have hregex (p : LinePart) (hp : p.regex = none) :=
    enter_whenSet LinePart.members "regex" rfl htext s.regex (s := p) (by rw [← hp])
  have hgroups (p : LinePart) (hp : p.regexGroups = none) :=
    enter_whenSet LinePart.members "regexGroups" rfl htexts s.regexGroups (s := p) (by rw [← hp])
  have hprogram (p : LinePart) (hp : p.customParser = none) :=
    enter_whenSet LinePart.members "customParser" rfl htext s.customParser (s := p) (by rw [← hp])
  have hrequired : ∀ m ∈ LinePart.members, m.isRequired = false := by decide
  have hstart : Json.Member.enter LinePart.members {} ("type", .str s.kind.label) = .ok { kind := some s.kind } :=
    enter_setting LinePart.members "type" rfl Json.noConfusion hkind {}
  have hskip (p : LinePart) : Json.Member.enter LinePart.members p ("skipLines", .strings s.skipLines) =
      .ok { p with skipLines := some s.skipLines } :=
    enter_setting LinePart.members "skipLines" rfl (htexts s.skipLines).1 (htexts s.skipLines).2 p
  rw [Line.Settings.toJson, Decoder.record_ofJson _ rfl]
  case hr => exact fun m hm hreq => absurd hreq (by simp [hrequired m hm])
  case hn =>
    have hall : ["type", "splitDelimiter", "regex", "regexGroups", "customParser", "skipLines"].Nodup := by decide
    refine hall.sublist ?_
    simp only [List.map_append]
    exact ((((List.Sublist.refl ["type"]).append (keys_whenSet _ _)).append (keys_whenSet _ _)).append
      (keys_whenSet _ _)).append (keys_whenSet _ _) |>.append (List.Sublist.refl ["skipLines"])
  simp only [List.foldlM_append, List.foldlM_cons, List.foldlM_nil, hstart, hskip, hdelimiter, hregex, hgroups, hprogram,
    bind, Except.bind, pure, Except.pure]
  rfl

theorem record_class (c : SampleClass) : Decoder.record classMembers ⟨"", "", ""⟩ (Raw.ofJson c.toJson) = .ok c :=
  rfl

theorem record_rule (r : Rule) :
    Decoder.record ruleMembers ⟨"", "", .label, none, true⟩ (Raw.ofJson r.toJson) = .ok r := by
  obtain ⟨id, condition, action, value, enabled⟩ := r
  cases action <;> cases value <;> rfl

/-- The section that sets all of the exports. -/
def exportPart (s : Export.Settings) : ExportPart where
  template := some s.template
  filename := some s.filename
  includeHeader := some s.includeHeader

theorem record_export (s : Export.Settings) :
    Decoder.record ExportPart.members {} (Raw.ofJson s.toJson) = .ok (exportPart s) :=
  rfl

/-- The section that sets all of the recording. -/
def recordingPart (s : Recording.Settings) : RecordingPart where
  autoStopSeconds := some s.autoStopSeconds
  enableLabeling := some s.enableLabeling

theorem record_recording {s : Recording.Settings} (h : s.autoStopSeconds ≤ 86400) :
    Decoder.record RecordingPart.members {} (Raw.ofJson s.toJson) = .ok (recordingPart s) := by
  have hseconds : Decoder.natural countLimit (Raw.ofJson (.int s.autoStopSeconds)) = .ok s.autoStopSeconds :=
    Decoder.natural_ofJson (Nat.le_trans h (by decide))
  rw [Recording.Settings.toJson, Decoder.record_ofJson ["autoStopSeconds", "enableLabeling"] rfl (by decide)
    (by decide)]
  simp [Json.Member.enter, RecordingPart.members, setting, Json.Member.optional, Decoder.nullable_ofJson, hseconds,
    Decoder.flag_ofJson, Except.map, bind, Except.bind, pure, Except.pure, recordingPart]

/-- The section that sets all of the log. -/
def logPart (s : Log.Settings) : LogPart where
  level := some s.level
  persistToFile := some s.persistToFile
  maxEntries := some s.maxEntries

theorem record_log {s : Log.Settings} (h : s.maxEntries ≤ 100000) :
    Decoder.record LogPart.members {} (Raw.ofJson s.toJson) = .ok (logPart s) := by
  have hentries : Decoder.natural countLimit (Raw.ofJson (.int s.maxEntries)) = .ok s.maxEntries :=
    Decoder.natural_ofJson (Nat.le_trans h (by decide))
  rw [Log.Settings.toJson, Decoder.record_ofJson ["level", "persistToFile", "maxEntries"] rfl (by decide) (by decide)]
  simp [Json.Member.enter, LogPart.members, setting, Json.Member.optional, Decoder.nullable_ofJson, hentries,
    Decoder.text_ofJson, Decoder.flag_ofJson, Except.map, bind, Except.bind, pure, Except.pure, logPart]

/-- The part that sets all of the commands of events. -/
def automatedPart (a : Transmit.Automated) : AutomatedPart where
  onConnect := some a.onConnect
  onDisconnect := some a.onDisconnect
  onRecordingStart := some a.onRecordingStart
  onRecordingStop := some a.onRecordingStop
  delay := some a.delay

theorem record_automated {a : Transmit.Automated} (h : a.delay ≤ 60000) :
    Decoder.record AutomatedPart.members {} (Raw.ofJson a.toJson) = .ok (automatedPart a) := by
  have hdelay : Decoder.natural countLimit (Raw.ofJson (.int a.delay)) = .ok a.delay :=
    Decoder.natural_ofJson (Nat.le_trans h (by decide))
  rw [Transmit.Automated.toJson, Decoder.record_ofJson
    ["onConnect", "onDisconnect", "onRecordingStart", "onRecordingStop", "delayBetweenCommands"] rfl (by decide)
    (by decide)]
  simp [Json.Member.enter, AutomatedPart.members, setting, Json.Member.optional, Decoder.nullable_ofJson, hdelay,
    Decoder.text_ofJson, Except.map, bind, Except.bind, pure, Except.pure, automatedPart]

theorem record_quickCommand (c : Transmit.QuickCommand) :
    Decoder.record quickCommandMembers ⟨"", "", "", true⟩ (Raw.ofJson c.toJson) = .ok c :=
  rfl

theorem record_classCommand (c : Transmit.ClassCommand) :
    Decoder.record classCommandMembers ⟨"", "", true⟩ (Raw.ofJson c.toJson) = .ok c :=
  rfl

/-- The section that sets all of the transmitter. -/
def transmitPart (s : Transmit.Settings) : TransmitPart where
  enabled := some s.enabled
  encoding := some s.encoding.label
  lineEnding := some s.lineEnding
  quickCommands := some s.quickCommands
  classCommands := some s.classCommands
  automated := automatedPart s.automated

theorem record_transmit {s : Transmit.Settings} (h : s.automated.delay ≤ 60000) :
    Decoder.record TransmitPart.members {} (Raw.ofJson s.toJson) = .ok (transmitPart s) := by
  have hquick := Decoder.list_ofJson record_quickCommand s.quickCommands
  have hclass := Decoder.list_ofJson record_classCommand s.classCommands
  have hautomated := Decoder.nullable_ofJson (j := s.automated.toJson) Json.noConfusion (record_automated h)
  rw [Transmit.Settings.toJson, Decoder.record_ofJson
    ["enabled", "encoding", "lineEnding", "quickCommands", "classCommands", "automatedCommands"] rfl (by decide)
    (by decide)]
  simp [Json.Member.enter, TransmitPart.members, setting, nested, Json.Member.optional, Decoder.nullable_ofJson, hquick,
    hclass, hautomated, Decoder.text_ofJson, Decoder.flag_ofJson, Except.map, bind, Except.bind, pure, Except.pure,
    transmitPart]

/-- The document that settings are written as. -/
def document (s : Settings) : Document where
  serial := serialPart s.serial
  line := linePart s.line
  fields := some s.fields
  classes := some s.classes
  rules := some s.rules
  exports := exportPart s.exports
  recording := recordingPart s.recording
  log := logPart s.log
  transmit := transmitPart s.transmit

theorem record_toJson {s : Settings} (h : s.Valid) :
    Decoder.record Document.members {} (Raw.ofJson s.toJson) = .ok s.document := by
  have hserial := Decoder.nullable_ofJson (j := s.serial.toJson) Json.noConfusion (record_serial h.baudRate.2)
  have hline := Decoder.nullable_ofJson (j := s.line.toJson) Json.noConfusion (record_line s.line)
  have hfields := Decoder.list_ofJson Decoder.text_ofJson s.fields
  have hclasses := Decoder.list_ofJson record_class s.classes
  have hrules := Decoder.list_ofJson record_rule s.rules
  have hexports := Decoder.nullable_ofJson (j := s.exports.toJson) Json.noConfusion (record_export s.exports)
  have hrecording := Decoder.nullable_ofJson (j := s.recording.toJson) Json.noConfusion
    (record_recording h.autoStopSeconds.2)
  have hlog := Decoder.nullable_ofJson (j := s.log.toJson) Json.noConfusion (record_log h.maxEntries.2)
  have htransmit := Decoder.nullable_ofJson (j := s.transmit.toJson) Json.noConfusion (record_transmit h.delay.2)
  rw [toJson, Decoder.record_ofJson
    ["serial", "parser", "fields", "classes", "rules", "export", "recording", "logging", "serialTx"] rfl (by decide)
    (by decide)]
  simp [Json.Member.enter, Document.members, setting, nested, Json.Member.optional, Decoder.nullable_ofJson, hserial,
    hline, Json.strings, hfields, hclasses, hrules, hexports, hrecording, hlog, htransmit, Except.map, bind, Except.bind,
    pure, Except.pure, document]

/-! ### The document over the defaults -/

theorem inRange_of_bounds (key : String) {low high n : Nat} (h : low ≤ n ∧ n ≤ high) (old : Nat) :
    inRange key low high (some n) old = (n, []) :=
  if_pos h

theorem levelName?_of_mem {l : String} (h : l ∈ levels) : levelName? l = some l := by
  have hall : ∀ l ∈ levels, levelName? l = some l := by decide
  exact hall l h

theorem ofName?_label (e : Transmit.Encoding) : Transmit.Encoding.ofName? e.label = some e := by
  cases e <;> decide

theorem apply_serialPart {s : Source.Settings} (hb : 300 ≤ s.baudRate ∧ s.baudRate ≤ 4000000) (hd : s.delimiter ≠ "")
    (he : small (Text.trim s.encoding.toList) ∈ sourceNames) (old : Source.Settings) :
    (serialPart s).apply old = (s, []) := by
  simp [SerialPart.apply, serialPart, inRange_of_bounds _ hb, hd, (isSome_ofName? s.encoding).mpr he]

theorem apply_linePart {s old : Line.Settings} (h : s.splitDelimiter.isSome)
    (hold : old.regex = none ∧ old.regexGroups = none ∧ old.customParser = none) : (linePart s).apply old = s := by
  simp [LinePart.apply, linePart, hold, Option.or_of_isSome h]

theorem apply_fields {fields : List String} (h : fields ≠ []) (old : List String) :
    applyFields (some fields) old = (fields, []) := by
  cases fields with
  | nil => exact absurd rfl h
  | cons a rest => rfl

theorem apply_recordingPart {s : Recording.Settings} (h : 0 ≤ s.autoStopSeconds ∧ s.autoStopSeconds ≤ 86400)
    (old : Recording.Settings) : (recordingPart s).apply old = (s, []) := by
  simp [RecordingPart.apply, recordingPart, autoStopLimit, inRange_of_bounds _ h]

theorem apply_logPart {s : Log.Settings} (hl : s.level ∈ levels) (h : 10 ≤ s.maxEntries ∧ s.maxEntries ≤ 100000)
    (old : Log.Settings) : (logPart s).apply old = (s, []) := by
  simp [LogPart.apply, logPart, levelName?_of_mem hl, inRange_of_bounds _ h]

theorem apply_transmitPart {s : Transmit.Settings} (h : 0 ≤ s.automated.delay ∧ s.automated.delay ≤ 60000)
    (old : Transmit.Settings) : (transmitPart s).apply old = (s, []) := by
  have hautomated : (automatedPart s.automated).apply old.automated = (s.automated, []) := by
    simp [AutomatedPart.apply, automatedPart, inRange_of_bounds _ h]
  simp [TransmitPart.apply, transmitPart, ofName?_label, hautomated]

/-- The document of valid settings makes the defaults into them. -/
theorem document_apply {s : Settings} (h : s.Valid) : s.document.apply {} = (s, []) := by
  have hline : (linePart s.line).apply ({} : Settings).line = s.line :=
    apply_linePart h.splitDelimiter ⟨rfl, rfl, rfl⟩
  simp [Document.apply, document, apply_serialPart h.baudRate h.delimiter h.encoding, hline, apply_fields h.fields,
    ExportPart.apply, exportPart, apply_recordingPart h.autoStopSeconds, apply_logPart h.level h.maxEntries,
    apply_transmitPart h.delay]

/-! ### The text of settings -/

theorem areExact_map {α : Type} {f : α → Json} (h : ∀ a, (f a).IsExact) (list : List α) : Json.AreExact (list.map f) := by
  induction list with
  | nil => trivial
  | cons a rest ih => exact ⟨h a, ih⟩

theorem membersExact_append {a b : List (String × Json)} (ha : Json.MembersExact a) (hb : Json.MembersExact b) :
    Json.MembersExact (a ++ b) := by
  induction a with
  | nil => exact hb
  | cons m rest ih => exact ⟨ha.1, ih ha.2⟩

theorem membersExact_whenSet {α : Type} (key : String) {f : α → Json} (h : ∀ a, (f a).IsExact) (v : Option α) :
    Json.MembersExact (Json.whenSet key (v.map f)) := by
  cases v with
  | none => trivial
  | some a => exact ⟨h a, trivial⟩

theorem isExact_str (t : String) : (Json.str t).IsExact :=
  trivial

theorem isExact_natural {n : Nat} (h : n ≤ 4000000) : (Json.int n).IsExact := by
  simp only [Json.IsExact, Raw.wordLimit]
  omega

theorem isExact_strings (list : List String) : (Json.strings list).IsExact :=
  areExact_map isExact_str list

/-- The numbers of valid settings fit into 64 bits. -/
theorem isExact_toJson {s : Settings} (h : s.Valid) : s.toJson.IsExact := by
  have hline : s.line.toJson.IsExact := by
    refine membersExact_append (membersExact_append (membersExact_append (membersExact_append (membersExact_append
      ⟨trivial, trivial⟩ ?_) ?_) ?_) ?_) ⟨isExact_strings _, trivial⟩
    · exact membersExact_whenSet _ isExact_str _
    · exact membersExact_whenSet _ isExact_str _
    · exact membersExact_whenSet _ isExact_strings _
    · exact membersExact_whenSet _ isExact_str _
  have hclass (c : SampleClass) : c.toJson.IsExact := ⟨trivial, trivial, trivial, trivial⟩
  have hrule (r : Rule) : r.toJson.IsExact :=
    membersExact_append (membersExact_append ⟨trivial, trivial, trivial, trivial⟩
      (membersExact_whenSet _ isExact_str _)) ⟨trivial, trivial⟩
  have hquick (c : Transmit.QuickCommand) : c.toJson.IsExact := ⟨trivial, trivial, trivial, trivial, trivial⟩
  have hcommand (c : Transmit.ClassCommand) : c.toJson.IsExact := ⟨trivial, trivial, trivial, trivial⟩
  have hautomated : s.transmit.automated.toJson.IsExact :=
    ⟨trivial, trivial, trivial, trivial, isExact_natural (Nat.le_trans h.delay.2 (by decide)), trivial⟩
  have hserial : s.serial.toJson.IsExact := ⟨isExact_natural h.baudRate.2, trivial, trivial, trivial, trivial⟩
  have hrecording : s.recording.toJson.IsExact :=
    ⟨isExact_natural (Nat.le_trans h.autoStopSeconds.2 (by decide)), trivial, trivial⟩
  have hlog : s.log.toJson.IsExact :=
    ⟨trivial, trivial, isExact_natural (Nat.le_trans h.maxEntries.2 (by decide)), trivial⟩
  have htransmit : s.transmit.toJson.IsExact :=
    ⟨trivial, trivial, trivial, areExact_map hquick _, areExact_map hcommand _, hautomated, trivial⟩
  exact ⟨hserial, hline, isExact_strings _, areExact_map hclass _, areExact_map hrule _, ⟨trivial, trivial, trivial,
    trivial⟩, hrecording, hlog, htransmit, trivial⟩

/-- Settings that were loaded are read back from the text that they are written as: as the same settings, without a
warning and without a report. -/
theorem Loaded.ofText_text {s : Settings} (h : Loaded s) : Settings.ofText s.text = pure (.ok (s, [])) := by
  have hd : Document.ofText s.text = .ok s.document := by
    rw [Document.ofText, Settings.text, Json.decodeText_pretty _ (isExact_toJson h.valid), record_toJson h.valid]
  rw [Settings.ofText, merge, hd]
  dsimp only
  rw [document_apply h.valid]
  rfl

/-- A document with an empty delimiter and a quote in a field, and one after it with a level in upper case and a number
out of range. -/
theorem ofText_text_changed :
    let line : Line.Settings := { kind := .split, splitDelimiter := some "" }
    let s : Settings := { line, fields := ["\"n"], log := { level := "warn" } }
    Loaded s ∧ Settings.ofText s.text = pure (.ok (s, [])) := by
  intro line s
  have hok {x : Except Fault (Checked Settings)} {c : Checked Settings} (h : x.toOption = some c) : x = .ok c := by
    cases x with
    | error _ => cases h
    | ok _ => exact congrArg Except.ok (Option.some.inj h)
  have hfirst : (Settings.ofText "\x7b\"parser\":\x7b\"splitDelimiter\":\"\"\x7d,\"fields\":[\"\\\"n\"]\x7d").value =
      .ok ({ line, fields := ["\"n"] }, []) :=
    hok (by decide +kernel)
  have hnext : (merge { line, fields := ["\"n"] }
      "\x7b\"serial\":\x7b\"baudRate\":12\x7d,\"logging\":\x7b\"level\":\"WARN\"\x7d\x7d").value =
        .ok (s, [.outOfRange "serial.baudRate" 12 300 4000000 115200]) :=
    hok (by decide +kernel)
  have h : Loaded s := .next (.first hfirst) hnext
  exact ⟨h, Loaded.ofText_text h⟩

end SampleRecorder.Settings
