import SampleRecorder.CommandLine.Arguments
import SampleRecorder.Log.Buffer
import SampleRecorder.Recorder.ExportFile
import SampleRecorder.Recorder.Run
import SampleRecorder.Settings.File
import SampleRecorder.Source.Manager
import SampleRecorder.Source.Port

/-!
# The program

What the command line does: it reads settings and a whole line source, records samples, and writes the export and the
log.  Everything that it needs from outside is in an `Environment`; what it prints is in its `Report`.
-/

namespace SampleRecorder.CommandLine

/-- The name of the program. -/
def programName : String := "SerialCollect"

/-- The name of the program's own directory below a directory of the user. -/
def directoryName : String := "serialcollect"

/-- The version of the program. -/
def programVersion : String := "1.0.0"

/-- What the program needs from outside: files, standard input, the report on a port that cannot be opened, the time,
the directories for settings and data, and the level from which events are logged, if one is imposed. -/
structure Environment (m : Type → Type) where
  files : Files.System m
  readInput : m (List UInt8)
  portProblem : String → m String
  now : m Int
  settingsDirectory : String
  dataDirectory : String
  logFilter : Option (Option Log.Level) := none

/-- What the program leaves behind: its exit code and the lines that it prints. -/
structure Report where
  code : Nat := 0
  out : List String := []
  err : List String := []
  deriving DecidableEq, Repr

/-- The report on a failure, printed as an error. -/
def Report.failure (message : String) : Report :=
  { code := 1, err := ["Error: " ++ message] }

/-- The report of two stages, one after the other; the code of the second counts. -/
def Report.followedBy (a b : Report) : Report :=
  { code := b.code, out := a.out ++ b.out, err := a.err ++ b.err }

/-- The wording of a fault of the line parser, told from other kinds. -/
def parserMessage (f : Line.Fault) : String :=
  "Parser error: " ++ f.message

/-- Settings as the arguments change them. -/
def override (a : Arguments) (s : Settings) : Settings :=
  { s with
    serial := { s.serial with baudRate := a.baud.getD s.serial.baudRate }
    recording :=
      { s.recording with
        autoStopSeconds :=
          (a.autoStop.map (min · Settings.autoStopLimit)).getD s.recording.autoStopSeconds }
    transmit := { s.transmit with enabled := s.transmit.enabled || !a.send.isEmpty || !a.quick.isEmpty } }

/-! ## Checking settings -/

/-- The lines on the rules of a recorder. -/
def ruleLines (r : Recorder) : List String :=
  r.checkRules.map fun (id, fault) => s!"rule {id}: " ++ (fault.map (·.message)).getD "ok"

/-- Checks the template and the rules of settings. -/
def validate (s : Settings) : Traced Report := do
  match ← Recorder.new s with
  | .error fault => pure { code := 1, out := ["parser: " ++ parserMessage fault] }
  | .ok r =>
    let check := r.template.check
    let lines := check.warnings.map ("template warning: " ++ ·) ++ check.errors.map ("template error: " ++ ·) ++ ruleLines r
    if check.isValid && r.checkRules.all (·.2.isNone) then
      pure { out := lines ++ ["Configuration is valid"] }
    else pure { code := 1, out := lines }

/-! ## Recording -/

/-- A source with everything that reading it yields. -/
structure Input where
  opener : Source.Opener
  reads : List Source.Read

/-- A source that was read to its end. -/
def Input.ofBytes (target : String) (bytes : List UInt8) : Input :=
  ⟨⟨target, fun _ => .ok none, false⟩, Source.reads bytes ++ [.ended]⟩

/-- The file, port or standard input that the arguments name. -/
def openInput {m : Type → Type} [Monad m] (env : Environment m) (a : Arguments) (s : Source.Settings) : m Input := do
  match a.port, a.input with
  | some port, _ =>
    let reason ← env.portProblem port
    let baud := s.baudRate
    pure ⟨⟨s!"{port} @ {baud} baud", fun _ => .error (.portNotOpened port reason), true⟩, []⟩
  | none, some path =>
    match ← env.files.read path with
    | .ok bytes => pure (.ofBytes path bytes)
    | .error .isDirectory => pure ⟨⟨path, fun _ => .ok none, false⟩, [.failed Files.Problem.isDirectory.message]⟩
    | .error problem => pure ⟨⟨path, fun _ => .error (.notOpened path problem.message), false⟩, []⟩
  | none, none =>
    let bytes ← env.readInput
    pure (.ofBytes "stdin" bytes)

/-- The events of a source. -/
def Input.events (input : Input) (s : Source.Settings) : Traced (Except Source.Fault (List Event)) := do
  let (outcome, manager) ← Source.Manager.start {} input.opener s
  match outcome with
  | .error fault => pure (.error fault)
  | .ok () => pure (.ok (manager.readAll 0 input.reads).shared.events.toList)

/-- A recorder with its port and the commands of the arguments; the port takes no bytes before the source is
connected, and afterwards only if the source has a writer. -/
def prepare (a : Arguments) (r : Recorder) : Recorder :=
  let r := r.attach { fault := some .notWritable }
  let r := a.send.foldl (fun r text => r.queue (.text text)) r
  a.quick.foldl (fun r id => r.queue (.quick id)) r

/-- The recorder after the events of the source, with the end of the run. -/
def record (r : Recorder) (now : Int) (a : Arguments) (events : List Event) :
    Traced (Recorder.RunEnd × Recorder) := do
  let (ended, r) ← r.run now events a.stopOnAutoStop
  let r ← r.stop
  let r ← r.detach
  let r ← r.dispose
  let counts := ", ".intercalate (r.session.stats.counts.entries.map fun e => Text.quoted e.1 ++ s!": {e.2}")
  Traced.log .info "Collection finished"
    [("total", .int r.session.stats.total), ("classes", .str ("\x7b" ++ counts ++ "\x7d")), ("end", .str ended.name)]
  pure (ended, r)

/-- The lines of the preview that the arguments ask for. -/
def previewed (a : Arguments) (r : Recorder) : List String :=
  match a.preview with
  | none => []
  | some most => r.preview (most.getD Recorder.previewLines)

/-- The remark on a source that has failed. -/
def farewell (ended : Recorder.RunEnd) (r : Recorder) : List String :=
  match ended, r.statusMessage with
  | .sourceClosed, some message => ["Source ended with status " ++ r.status.label ++ ": " ++ message]
  | _, _ => []

variable {m : Type → Type} [Monad m]

/-- Writes the export, if there are samples, and reports on the run. -/
def conclude (env : Environment m) (a : Arguments) (now : Int) (ended : Recorder.RunEnd) (r : Recorder) :
    m (Traced Report) := do
  let shown := previewed a r
  if r.session.samples.isEmpty then
    pure do
      Traced.log .info "No samples recorded; nothing to export"
      pure { out := shown, err := farewell ended r }
  else
    let written ← r.writeExport env.files now a.output
    match written.value with
    | .ok path =>
      let total := r.session.stats.total
      pure do
        let _ ← written
        pure { out := shown ++ [s!"Exported {total} samples to {path}"], err := farewell ended r }
    | .error fault =>
      pure do
        let _ ← written
        Traced.log .error "Export failed" [("error", .str fault.message)]
        pure ({ out := shown : Report }.followedBy (.failure fault.message))

/-- Reads the source that the arguments name and records it. -/
def collect (env : Environment m) (a : Arguments) (s : Settings) : m (Traced Report) := do
  let now ← env.now
  let created := Recorder.new s
  match created.value with
  | .error fault =>
    pure do
      let _ ← created
      Traced.log .error "Invalid configuration" [("error", .str (parserMessage fault))]
      pure (.failure (parserMessage fault))
  | .ok r =>
    let begun : Traced (Bool × Recorder) :=
      if a.record then (prepare a r).start now a.sampleClass else pure (true, prepare a r)
    if !begun.value.1 then
      pure do
        let _ ← created
        let _ ← begun
        pure (.failure "labeling is enabled; pass --class to start recording")
    else
      let input ← openInput env a s.serial
      let opened := input.events s.serial
      match opened.value with
      | .error fault =>
        pure do
          let _ ← created
          let _ ← begun
          let _ ← opened
          Traced.log .error "Cannot start line source" [("error", .str fault.message)]
          pure (.failure fault.message)
      | .ok events =>
        let recorded := record begun.value.2 now a events
        let report ← conclude env a now recorded.value.1 recorded.value.2
        pure do
          let _ ← created
          let _ ← begun
          let _ ← opened
          let _ ← recorded
          report

/-! ## The log -/

/-- The least level of the events that reach the log; none does where the log is switched off. -/
def logLevel (env : Environment m) (a : Arguments) (s : Log.Settings) : Option Log.Level :=
  match env.logFilter with
  | some filter => filter
  | none => if a.debug then some .debug else Log.Level.ofName? s.level

/-- The text of the log with the given events. -/
def logText (env : Environment m) (a : Arguments) (s : Log.Settings) (now : Int) (events : List Log.Event) : String :=
  let taken := events.filter fun e => (logLevel env a s).any fun least => e.level.reaches least
  let entry (e : Log.Event) : Log.Entry :=
    ⟨now, e.level, e.message, if e.data.isEmpty then none else some (.obj (Dict.ofList e.data).entries)⟩
  let least := (Log.Level.ofName? s.level).getD .info
  (taken.foldl (fun b e => b.push (entry e)) (Log.Buffer.empty s.maxEntries least)).text

/-- Writes the log to a file, whose directories are created; the answer holds a remark on a failure. -/
def writeLog (env : Environment m) (text path : String) : m (List String) := do
  match Files.Path.parent? path with
  | some parent => let _ ← env.files.createDirectories parent
  | none => pure ()
  match ← env.files.writeText path (text ++ "\n") with
  | .ok () => pure []
  | .error problem => pure [s!"Error: cannot write log '{path}': " ++ problem.message]

/-- The file of the log in the directory for data. -/
def logFile (env : Environment m) : String :=
  Files.Path.join env.dataDirectory (directoryName ++ ".log")

/-- The file of the settings where the arguments name none. -/
def settingsFile (env : Environment m) : String :=
  Files.Path.join env.settingsDirectory "config.json"

/-- Writes the log to the files that the arguments and the settings ask for. -/
def writeLogs (env : Environment m) (a : Arguments) (s : Log.Settings) (text : String) : m (List String) := do
  let exported ← match a.logExport with
    | some path => writeLog env text path
    | none => pure []
  let kept ← if s.persistToFile then writeLog env text (logFile env) else pure []
  pure (exported ++ kept)

/-! ## The run -/

/-- The events at the start of the program. -/
def greeting (a : Arguments) (path : String) (warnings : List Settings.Warning) : Traced Unit := do
  Traced.log .debug "Logging initialised" [("app", .str programName), ("version", .str programVersion)]
  Traced.log .info s!"{programName} starting"
    [("version", .str programVersion), ("debug", .bool a.debug), ("config", .str path)]
  let _ ← Traced.mapList
    (fun w => Traced.log .warn "Configuration warning" [("warning", .str (Settings.Warning.message w))]) warnings
  pure ()

/-- Does what the arguments ask for. -/
def runArguments (env : Environment m) (a : Arguments) : m Report := do
  let path := a.config.getD (settingsFile env)
  let loaded ← Settings.load env.files path
  match loaded.value with
  | .error fault => pure (.failure fault.message)
  | .ok (settings, warnings) =>
    let settings := override a settings
    let traced ← if a.validate then pure (validate settings) else collect env a settings
    let now ← env.now
    let events := (greeting a path warnings).events ++ traced.events
    let remarks ← writeLogs env a settings.log (logText env a settings.log now events)
    pure { traced.value with err := traced.value.err ++ remarks }

/-- How the program is used. -/
def usage : List String :=
  ["Usage: " ++ programName ++ " [OPTIONS]", "", "Options:"] ++
    Key.all.map fun k => "  " ++ ((k.short?.map fun c => s!"-{c}, ").getD "    ") ++ "--" ++ k.long

/-- Runs the program with the arguments of a command line. -/
def run (env : Environment m) (arguments : List String) : m Report :=
  match Request.ofArguments arguments with
  | .ok (.run a) => runArguments env a
  | .ok .help => pure { out := usage }
  | .ok .version => pure { out := [programName ++ " " ++ programVersion] }
  | .error fault => pure { code := 2, err := ["error: " ++ fault.message] }

end SampleRecorder.CommandLine
