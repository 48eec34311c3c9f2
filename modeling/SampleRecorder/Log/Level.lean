/-!
# Levels of log events

The five levels, from the least to the most severe, with their names in settings and their labels in log texts.
-/

namespace SampleRecorder.Log

/-- How severe a log event is. -/
inductive Level where
  | trace
  | debug
  | info
  | warn
  | error
  deriving DecidableEq, Repr, Inhabited

namespace Level

/-- The place of a level in the order of severity. -/
def rank : Level → Nat
  | trace => 0
  | debug => 1
  | info => 2
  | warn => 3
  | error => 4

/-- Whether an event of level `l` is at least as severe as `least`. -/
def reaches (l least : Level) : Bool :=
  least.rank ≤ l.rank

/-- The label of a level in log texts. -/
def label : Level → String
  | trace => "TRACE"
  | debug => "DEBUG"
  | info => "INFO"
  | warn => "WARN"
  | error => "ERROR"

/-- The name of a level in settings. -/
def key : Level → String
  | trace => "trace"
  | debug => "debug"
  | info => "info"
  | warn => "warn"
  | error => "error"

/-- All levels, the most severe first. -/
def all : List Level :=
  [error, warn, info, debug, trace]

/-- The level with a name, in any case; `warning` is another name of `warn`. -/
def ofName? (name : String) : Option Level :=
  match String.ofList (name.toList.map Char.toLower) with
  | "trace" => some trace
  | "debug" => some debug
  | "info" => some info
  | "warn" | "warning" => some warn
  | "error" => some error
  | _ => none

end Level

end SampleRecorder.Log
