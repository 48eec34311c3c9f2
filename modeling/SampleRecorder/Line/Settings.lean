/-!
# Settings of the line parser

Which of the four ways a line is read, with the settings of each; those of the other ways are kept but have no effect.
-/

namespace SampleRecorder.Line

/-- How lines are read. -/
inductive Kind where
  | split
  | regex
  | json
  | custom
  deriving DecidableEq, Repr, Inhabited

/-- The name of a way of reading. -/
def Kind.label : Kind → String
  | split => "split"
  | regex => "regex"
  | json => "json"
  | custom => "custom"

/-- The settings of a line parser. -/
structure Settings where
  kind : Kind
  splitDelimiter : Option String := none
  regex : Option String := none
  regexGroups : Option (List String) := none
  customParser : Option String := none
  skipLines : List String := []
  deriving DecidableEq, Repr

/-- The delimiter of a split where none is set. -/
def defaultSplitDelimiter : String := ","

/-- The delimiter of a split. -/
def Settings.delimiter (s : Settings) : String :=
  match s.splitDelimiter with
  | some d => if d = "" then defaultSplitDelimiter else d
  | none => defaultSplitDelimiter

end SampleRecorder.Line
