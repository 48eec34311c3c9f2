import SampleRecorder.Files.Problem

/-!
# Serial ports

Why a path cannot be opened as a serial port: there is no file that could be opened, or it is no terminal.
-/

namespace SampleRecorder.Source

/-- The report on a path that cannot be opened as a serial port, from what opening it as a file leads to. -/
def portReport {α : Type} (opened : Except Files.Problem α) : String :=
  match opened with
  | .ok _ => "Not a typewriter"
  | .error .badName => "Invalid argument"
  | .error problem => problem.report

end SampleRecorder.Source
