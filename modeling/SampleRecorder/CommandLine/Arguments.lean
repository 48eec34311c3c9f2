import SampleRecorder.Number.Numeral

/-!
# Command line arguments

Options have a long name and some a short one.  A value follows as the next argument or behind `=`; the short names of
options without values can be written together.  Every option but two may be given once.
-/

namespace SampleRecorder.CommandLine

/-- What the arguments ask for. -/
structure Arguments where
  config : Option String := none
  input : Option String := none
  port : Option String := none
  baud : Option Nat := none
  sampleClass : Option String := none
  record : Bool := false
  autoStop : Option Nat := none
  stopOnAutoStop : Bool := false
  send : List String := []
  quick : List String := []
  output : String := "."
  preview : Option (Option Nat) := none
  logExport : Option String := none
  validate : Bool := false
  debug : Bool := false
  deriving DecidableEq, Repr

/-- The options. -/
inductive Key where
  | config
  | input
  | port
  | baud
  | sampleClass
  | record
  | autoStop
  | stopOnAutoStop
  | send
  | quick
  | output
  | preview
  | logExport
  | validate
  | debug
  | help
  | version
  deriving DecidableEq, Repr

/-- Why arguments are refused. -/
inductive Fault where
  | unexpected (argument : String)
  | missingValue (key : Key)
  | badValue (key : Key) (value : String)
  | repeated (key : Key)
  | conflict (a b : Key)
  | needs (key other : Key)
  deriving DecidableEq, Repr

namespace Key

/-- The long name of an option. -/
def long : Key → String
  | config => "config"
  | input => "input"
  | port => "port"
  | baud => "baud"
  | sampleClass => "class"
  | record => "record"
  | autoStop => "auto-stop"
  | stopOnAutoStop => "stop-on-auto-stop"
  | send => "send"
  | quick => "quick"
  | output => "output"
  | preview => "preview"
  | logExport => "log-export"
  | validate => "validate"
  | debug => "debug"
  | help => "help"
  | version => "version"

/-- The short name of an option. -/
def short? : Key → Option Char
  | config => some 'c'
  | input => some 'i'
  | port => some 'p'
  | baud => some 'b'
  | record => some 'r'
  | output => some 'o'
  | debug => some 'd'
  | help => some 'h'
  | version => some 'V'
  | _ => none

/-- All options. -/
def all : List Key :=
  [config, input, port, baud, sampleClass, record, autoStop, stopOnAutoStop, send, quick, output, preview, logExport,
    validate, debug, help, version]

/-- Whether an option is a mere switch. -/
def isSwitch (k : Key) : Bool :=
  [record, stopOnAutoStop, validate, debug, help, version].contains k

/-- Whether an option may be given several times. -/
def isRepeatable (k : Key) : Bool :=
  k = send || k = quick

end Key

/-- How to name a cause to the user. -/
def Fault.message : Fault → String
  | unexpected argument => s!"unexpected argument '{argument}' found"
  | missingValue key => "a value is required for '--" ++ key.long ++ "' but none was supplied"
  | badValue key value => s!"invalid value '{value}' for '--" ++ key.long ++ "'"
  | repeated key => "the argument '--" ++ key.long ++ "' cannot be used multiple times"
  | conflict a b => "the argument '--" ++ a.long ++ "' cannot be used with '--" ++ b.long ++ "'"
  | needs key other => "the argument '--" ++ key.long ++ "' requires '--" ++ other.long ++ "'"

/-- A number without a minus sign, up to a limit. -/
def natural? (limit : Nat) (s : String) : Option Nat :=
  let digits := match s.toList with | '+' :: rest => rest | s => s
  if digits.isEmpty || !digits.all Char.isDigit then none
  else if Number.ofDigits digits ≤ limit then some (Number.ofDigits digits) else none

/-- A signed number that turns out to be in a range from zero. -/
def inRange? (limit : Nat) (s : String) : Option Nat :=
  (Number.int64? s.toList).bind fun n => if 0 ≤ n.toInt ∧ n.toInt ≤ limit then some n.toInt.toNat else none

/-- A path, which is not empty. -/
def path? (s : String) : Option String :=
  if s = "" then none else some s

/-- Sets an option with a value; only a preview may have none. -/
def Arguments.set? (a : Arguments) (key : Key) (value : Option String) : Option Arguments :=
  match key, value with
  | .config, some v => (path? v).map fun v => { a with config := some v }
  | .input, some v => (path? v).map fun v => { a with input := some v }
  | .port, some v => some { a with port := some v }
  | .baud, some v => (inRange? Number.greatest32 v).map fun n => { a with baud := some n }
  | .sampleClass, some v => some { a with sampleClass := some v }
  | .autoStop, some v => (natural? Number.greatest64 v).map fun n => { a with autoStop := some n }
  | .send, some v => some { a with send := a.send ++ [v] }
  | .quick, some v => some { a with quick := a.quick ++ [v] }
  | .output, some v => (path? v).map fun v => { a with output := v }
  | .preview, some v => (natural? Number.greatest64 v).map fun n => { a with preview := some (some n) }
  | .preview, none => some { a with preview := some none }
  | .logExport, some v => (path? v).map fun v => { a with logExport := some v }
  | .record, none => some { a with record := true }
  | .stopOnAutoStop, none => some { a with stopOnAutoStop := true }
  | .validate, none => some { a with validate := true }
  | .debug, none => some { a with debug := true }
  | _, _ => none

/-- What a command line asks for: to be run, or to be told about the program. -/
inductive Request where
  | run (arguments : Arguments)
  | help
  | version
  deriving DecidableEq, Repr

/-- How far the arguments have been read: the options so far, and one that waits for its value. -/
structure Progress where
  arguments : Arguments := {}
  seen : List Key := []
  waiting : Option Key := none
  deriving DecidableEq, Repr

/-- What an argument leads to: more arguments, or an answer at once. -/
inductive Step where
  | more (p : Progress)
  | answer (r : Request)
  deriving DecidableEq, Repr

namespace Progress

/-- Sets an option. -/
def assign (p : Progress) (key : Key) (value : Option String) : Except Fault Progress :=
  if p.seen.contains key && !key.isRepeatable then .error (.repeated key)
  else
    match p.arguments.set? key value with
    | some arguments => .ok { arguments, seen := key :: p.seen, waiting := none }
    | none => .error (.badValue key (value.getD ""))

/-- Goes on without a value for the option that waits for one. -/
def settle (p : Progress) : Except Fault Progress :=
  match p.waiting with
  | none => .ok p
  | some .preview => p.assign .preview none
  | some key => .error (.missingValue key)

/-- Takes a switch. -/
def switch (p : Progress) (key : Key) : Except Fault Step :=
  match key with
  | .help => .ok (.answer .help)
  | .version => .ok (.answer .version)
  | key => (p.assign key none).map .more

/-- Takes an option with a long name, given without its dashes. -/
def takeLong (p : Progress) (argument : String) (s : List Char) : Except Fault Step :=
  let name := String.ofList (s.takeWhile (· ≠ '='))
  match Key.all.find? (·.long == name), s.dropWhile (· ≠ '=') with
  | none, _ => .error (.unexpected argument)
  | some key, [] => if key.isSwitch then p.switch key else .ok (.more { p with waiting := some key })
  | some key, _ :: value =>
    if key.isSwitch then .error (.unexpected argument) else (p.assign key (some (String.ofList value))).map .more

/-- Takes options with short names, given without their dash. -/
def takeShort (p : Progress) (argument : String) : List Char → Except Fault Step
  | [] => .ok (.more p)
  | c :: rest =>
    match Key.all.find? (·.short? == some c) with
    | none => .error (.unexpected argument)
    | some key =>
      if key.isSwitch then do
        match ← p.switch key with
        | .more p => takeShort p argument rest
        | .answer r => .ok (.answer r)
      else
        match rest with
        | [] => .ok (.more { p with waiting := some key })
        | '=' :: value => (p.assign key (some (String.ofList value))).map .more
        | value => (p.assign key (some (String.ofList value))).map .more

/-- Takes one argument that is not behind `--`. -/
def take (p : Progress) (argument : String) : Except Fault Step :=
  match argument.toList with
  | '-' :: '-' :: s => do
    let p ← p.settle
    p.takeLong argument s
  | '-' :: c :: s => do
    let p ← p.settle
    p.takeShort argument (c :: s)
  | _ =>
    match p.waiting with
    | some key => (p.assign key (some argument)).map .more
    | none => .error (.unexpected argument)

/-- The request when all arguments are taken; some options exclude or need others. -/
def finish (p : Progress) : Except Fault Request := do
  let p ← p.settle
  let a := p.arguments
  if a.input.isSome && a.port.isSome then .error (.conflict .input .port)
  else if a.baud.isSome && a.port.isNone then .error (.needs .baud .port)
  else .ok (.run a)

/-- Takes arguments in order; nothing may follow `--`. -/
def takeAll (p : Progress) : List String → Except Fault Request
  | [] => p.finish
  | "--" :: rest =>
    match rest with
    | [] => p.finish
    | argument :: _ => .error (.unexpected argument)
  | argument :: rest => do
    match ← p.take argument with
    | .more p => takeAll p rest
    | .answer r => .ok r

end Progress

/-- Reads the arguments of a command line. -/
def Request.ofArguments (arguments : List String) : Except Fault Request :=
  Progress.takeAll {} arguments

end SampleRecorder.CommandLine
