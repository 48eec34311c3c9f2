import SampleRecorder.Field

/-!
# Readings and samples

A reading is one line that was understood: its text and its fields.  A sample is a reading that was recorded, perhaps
under a label.
-/

namespace SampleRecorder

/-- A line with the fields that were read from it; times are milliseconds since 1970. -/
structure Reading where
  timestamp : Int
  raw : String
  fields : Fields

/-- A recorded reading. -/
structure Sample where
  reading : Reading
  recordedAt : Int
  label : Option String

/-- The label under which samples without one are counted. -/
def unlabeled : String := "unlabeled"

namespace Sample

/-- The label under which the sample is counted. -/
def countLabel (s : Sample) : String :=
  s.label.getD unlabeled

/-- The sample as a JSON object. -/
def toJson (s : Sample) : Json :=
  .obj ([("timestamp", .int s.reading.timestamp), ("raw", .str s.reading.raw), ("fields", s.reading.fields.toJson),
    ("recordedAt", .int s.recordedAt)] ++ s.label.toList.map fun l => ("label", Json.str l))

end Sample

end SampleRecorder
