import SampleRecorder.Files.Path
import SampleRecorder.Files.System
import SampleRecorder.Recorder.Export

/-!
# Exports in files
-/

namespace SampleRecorder.Recorder

open Files (System)

variable {m : Type → Type} [Monad m]

/-- Writes the export into a directory, which is created; the answer is the path of the file. -/
def writeExport (sys : System m) (r : Recorder) (now : Int) (directory : String) :
    m (Traced (Except Export.Fault String)) := do
  let rendered := r.exportFile now
  match rendered.value with
  | .error fault => pure (rendered >>= fun _ => pure (.error fault))
  | .ok file =>
    match ← sys.createDirectories directory with
    | .error problem => pure (rendered >>= fun _ => pure (.error (.notWritten directory problem.message)))
    | .ok () =>
      let path := Files.Path.join directory file.name
      match ← sys.writeText path (file.content ++ "\n") with
      | .error problem => pure (rendered >>= fun _ => pure (.error (.notWritten path problem.message)))
      | .ok () =>
        pure do
          let _ ← rendered
          Traced.log .info "Export written" [("path", .str path)]
          pure (.ok path)

end SampleRecorder.Recorder
