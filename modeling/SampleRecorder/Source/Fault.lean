/-!
# Faults of line sources

Why a line source cannot be opened or written to, with the wording of each cause.
-/

namespace SampleRecorder.Source

/-- Why a line source fails; a `reason` is the system's own report. -/
inductive Fault where
  | notOpened (target reason : String)
  | portNotOpened (port reason : String)
  | unsupportedEncoding (name : String)
  | notConnected
  | notWritable
  | notWritten (reason : String)
  deriving DecidableEq, Repr

/-- The wording of a cause. -/
def Fault.message : Fault → String
  | notOpened target reason => s!"Cannot open '{target}': " ++ reason
  | portNotOpened port reason => s!"Cannot open serial port '{port}': " ++ reason
  | unsupportedEncoding name => s!"Encoding '{name}' is not supported. Expected one of: utf-8, ascii, latin1"
  | notConnected => "Source is not connected"
  | notWritable => "Source is not writable"
  | notWritten reason => "Failed to write to source: " ++ reason

end SampleRecorder.Source
