import SampleRecorder.Recorder.Basic
import SampleRecorder.Source.Event

/-!
# Running a recorder

A recorder takes events until one of them ends the run, or until there are no more.
-/

namespace SampleRecorder.Recorder

/-- Why a run has ended. -/
inductive RunEnd where
  | sourceClosed
  | autoStopped
  | shutdown
  deriving DecidableEq, Repr

/-- How the end of a run is called in the log. -/
def RunEnd.name : RunEnd → String
  | sourceClosed => "SourceClosed"
  | autoStopped => "AutoStopped"
  | shutdown => "Shutdown"

/-- Takes one event; the answer says whether it ends the run. -/
def takeEvent (r : Recorder) (now : Int) (stopOnAutoStop : Bool) : Event → Traced (Option RunEnd × Recorder)
  | .line text => do
    let (_, r) ← r.takeLine now text
    pure (none, r)
  | .status status message => do
    let r ← r.setStatus status message
    pure (none, r)
  | .autoStop generation => do
    let (ended, session) ← r.session.expire generation
    let r := { r with session }
    if ended then do
      let r ← r.automate .recordingStop
      pure (if stopOnAutoStop then some .autoStopped else none, r)
    else pure (none, r)
  | .sourceClosed => pure (some .sourceClosed, r)
  | .shutdown => pure (some .shutdown, r)

/-- Takes events up to the one that ends the run; `lines` counts the lines so far. -/
def takeEvents (now : Int) (stopOnAutoStop : Bool) (r : Recorder) (lines : Nat) :
    List Event → Traced (RunEnd × Nat × Recorder)
  | [] => pure (.shutdown, lines, r)
  | e :: rest => do
    let lines := match e with | .line _ => lines + 1 | _ => lines
    let (ended, r) ← r.takeEvent now stopOnAutoStop e
    match ended with
    | some reason => pure (reason, lines, r)
    | none => takeEvents now stopOnAutoStop r lines rest

/-- Runs over events; those behind the end of the run are lost. -/
def run (r : Recorder) (now : Int) (events : List Event) (stopOnAutoStop : Bool) : Traced (RunEnd × Recorder) := do
  let (reason, lines, r) ← takeEvents now stopOnAutoStop r 0 events
  Traced.log .info "Collector loop finished"
    [("lines", .int lines), ("samples", .int r.session.stats.total), ("end", .str reason.name)]
  pure (reason, r)

end SampleRecorder.Recorder
