import SampleRecorder.Script.Parse

/-!
# Refused parser settings

Why the settings of a line parser are refused, with the wording of each cause.
-/

namespace SampleRecorder.Line

/-- The greatest length of a pattern in bytes. -/
def patternLimit : Nat := 4096

/-- The setting that a pattern comes from. -/
inductive PatternSource where
  | regex
  | skipLines
  deriving DecidableEq, Repr

/-- The key of a setting. -/
def PatternSource.key : PatternSource → String
  | regex => "regex"
  | skipLines => "skipLines"

/-- Why the settings of a parser are refused. -/
inductive Fault where
  | missingPattern
  | badPattern (source : PatternSource) (pattern : String) (fault : Regex.Fault)
  | patternTooLong (source : PatternSource) (bytes : Nat)
  | missingProgram
  | program (fault : Script.CompileFault)
  deriving DecidableEq, Repr

/-- The wording of a cause. -/
def Fault.message : Fault → String
  | missingPattern => "parser type is 'regex' but no pattern is set"
  | badPattern source pattern fault => "invalid regex in '" ++ source.key ++ s!"' ('{pattern}'): " ++ fault.message
  | patternTooLong source bytes =>
    "regex in '" ++ source.key ++ s!"' is {bytes} chars, exceeds maximum of {patternLimit}"
  | missingProgram => "parser type is 'custom' but no expression is set"
  | program (.tooLong bytes) =>
    let limit := Script.sourceLimit
    s!"custom parser expression is {bytes} bytes, exceeds maximum of {limit}"
  | program (.malformed fault) =>
    let line := fault.position.line
    let column := fault.position.column
    s!"invalid custom parser expression at line {line}, column {column}: " ++ fault.reason.message

end SampleRecorder.Line
