import SampleRecorder.Export.Fault
import SampleRecorder.Recorder.Basic

/-!
# Exports and checks of a recorder
-/

namespace SampleRecorder.Recorder

/-- An export that is ready to be written. -/
structure ExportFile where
  name : String
  content : String
  deriving DecidableEq, Repr

/-- Renders all samples; there must be some, and nothing may be wrong with the template. -/
def exportFile (r : Recorder) (now : Int) : Traced (Except Export.Fault ExportFile) :=
  if r.session.samples.isEmpty then pure (.error .noSamples)
  else
    let check := r.template.check
    if !check.isValid then pure (.error (.badTemplate check.errors))
    else do
      let name := Export.withExtension (Export.fileName r.settings.exports.filename now)
      Traced.log .info "Export generated" [("filename", .str name), ("samples", .int r.session.samples.length)]
      pure (.ok ⟨name, r.template.table r.session.samples r.settings.exports.includeHeader⟩)

/-- What a preview shows where there are no samples. -/
def emptyPreview : String := "No data to preview"

/-- Rows of a preview where no number is asked for. -/
def previewLines : Nat := 5

/-- The first lines of the export. -/
def preview (r : Recorder) (most : Nat) : List String :=
  if r.session.samples.isEmpty then [emptyPreview]
  else r.template.preview r.session.samples most r.settings.exports.includeHeader

/-- The rules with what is wrong with their conditions. -/
def checkRules (r : Recorder) : List (String × Option Rule.Fault) :=
  r.settings.rules.map fun rule => (rule.id, (Rule.Condition.ofText rule.condition).fault?)

end SampleRecorder.Recorder
