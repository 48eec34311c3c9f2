import SampleRecorder.Log.Event
import SampleRecorder.Reading
import SampleRecorder.Text.Class

/-!
# Recording sessions

A session stores samples while a recording is active.  Every start has a number; a recording that is to end by itself
is armed with the number of its start, so the end of an earlier one is recognised as stale.
-/

namespace SampleRecorder.Recording

/-- The settings of a session; no seconds means that a recording does not end by itself. -/
structure Settings where
  autoStopSeconds : Nat := 10
  enableLabeling : Bool := true
  deriving DecidableEq, Repr

/-- Totals over the stored samples; times are milliseconds since 1970. -/
structure Stats where
  total : Nat := 0
  counts : Dict Nat := .empty
  startTime : Option Int := none
  lastSampleTime : Option Int := none

/-- A session: what it stored, whether it records, and whether the recording will end by itself. -/
structure Session where
  settings : Settings
  isRecording : Bool := false
  currentClass : Option String := none
  samples : List Sample := []
  stats : Stats := {}
  generation : Nat := 0
  isArmed : Bool := false

/-- Adds one to the count of a label. -/
def Stats.countUp (counts : Dict Nat) (label : String) : Dict Nat :=
  counts.insert label ((counts.get? label).getD 0 + 1)

/-- The totals after one more sample. -/
def Stats.add (s : Stats) (sample : Sample) : Stats where
  total := s.total + 1
  counts := countUp s.counts sample.countLabel
  startTime := s.startTime
  lastSampleTime := some sample.recordedAt

namespace Session

/-- A class without white space at its ends, unless it is blank. -/
def chosen? (classId : Option String) : Option String :=
  classId.bind fun c =>
    match Text.trim c.toList with
    | [] => none
    | trimmed => some (String.ofList trimmed)

/-- Changes the settings and disarms the recording. -/
def configure (s : Session) (settings : Settings) : Traced Session := do
  Traced.logIf s.isArmed .info "Recording settings changed; pending auto-stop cancelled"
  pure { s with settings, isArmed := false }

/-- Starts a recording, or starts it anew.  With labeling it needs a class; the answer says whether it has started. -/
def start (s : Session) (now : Int) (classId : Option String) : Traced (Bool × Session) :=
  let chosen := chosen? classId
  if s.settings.enableLabeling && chosen.isNone then do
    Traced.log .warn "Cannot start recording: labeling is enabled but no class was selected"
    pure (false, s)
  else do
    Traced.log .info "Recording started"
      [("class", .str (chosen.getD "-")), ("auto_stop_seconds", .int s.settings.autoStopSeconds)]
    pure (true,
      { s with
        isRecording := true
        currentClass := chosen
        stats := { s.stats with startTime := some (s.stats.startTime.getD now) }
        generation := s.generation + 1
        isArmed := 0 < s.settings.autoStopSeconds })

/-- Ends the recording, if one is active. -/
def stop (s : Session) : Traced Session :=
  if s.isRecording then do
    Traced.log .info "Recording stopped" [("total_samples", .int s.stats.total)]
    pure { s with isRecording := false, currentClass := none, isArmed := false }
  else do
    Traced.log .debug "Stop requested while not recording"
    pure { s with isArmed := false }

/-- Ends the recording when the time of the start with the given number is up; the answer says whether it did. -/
def expire (s : Session) (generation : Nat) : Traced (Bool × Session) :=
  if generation = s.generation ∧ s.isRecording ∧ s.isArmed then do
    Traced.log .info "Auto-stop timer expired" [("seconds", .int s.settings.autoStopSeconds)]
    let s ← s.stop
    pure (true, s)
  else do
    Traced.log .debug "Ignoring stale auto-stop" [("generation", .int generation), ("current", .int s.generation)]
    pure (false, s)

/-- The sample that a reading becomes; a label that a rule gives goes before the class. -/
def sampleOf (s : Session) (now : Int) (data : Reading) (label : Option String) : Sample where
  reading := data
  recordedAt := now
  label := label <|> s.currentClass

/-- Stores a reading while a recording is active, and gives the sample. -/
def record (s : Session) (now : Int) (data : Reading) (label : Option String) : Option Sample × Session :=
  if s.isRecording then
    let sample := s.sampleOf now data label
    (some sample, { s with samples := s.samples ++ [sample], stats := s.stats.add sample })
  else (none, s)

/-- Drops all samples and their totals. -/
def clear (s : Session) : Traced Session := do
  Traced.log .info "Recorded samples cleared" [("dropped", .int s.samples.length)]
  pure { s with samples := [], stats := {} }

end Session

end SampleRecorder.Recording
