import SampleRecorder.Json.Decode
import SampleRecorder.Line.Fault
import SampleRecorder.Line.Settings
import SampleRecorder.Log.Event
import SampleRecorder.Reading
import SampleRecorder.Script.Eval

/-!
# Reading lines

A parser turns one line into named values: by a delimiter, by the groups of a pattern, as a JSON object, or by a
program.  All that can be wrong with its settings is found by `Parser.compile`; after that a line is either read or
not, and a line that begins as a skip pattern says is not read.
-/

namespace SampleRecorder.Line

/-- Which lines are passed over: those with a beginning, or those that fit a pattern. -/
inductive Skip where
  | beginning (text : String)
  | pattern (regex : Regex)

/-- The way a parser reads a line. -/
inductive Strategy where
  | split (delimiter : String)
  | regex (regex : Regex) (groups : List String)
  | json
  | custom (program : Script.Program)

/-- A compiled parser and the names of the fields it is to fill. -/
structure Parser where
  strategy : Strategy
  fields : List String
  skips : List Skip

/-- Compiles a pattern of bounded length. -/
def compilePattern (source : PatternSource) (pattern : String) : Except Fault Regex :=
  if patternLimit < pattern.utf8ByteSize then .error (.patternTooLong source pattern.utf8ByteSize)
  else
    match Regex.compile? pattern with
    | .ok r => .ok r
    | .error fault => .error (.badPattern source pattern fault)

/-- The text between two slashes. -/
def betweenSlashes? (s : List Char) : Option (List Char) :=
  match s with
  | '/' :: rest => if rest.getLast? = some '/' then some rest.dropLast else none
  | _ => none

namespace Skip

/-- Compiles a skip pattern: a regular expression between slashes, or the beginning of a line. -/
def compile (pattern : String) : Except Fault Skip :=
  match betweenSlashes? pattern.toList with
  | some body => (compilePattern .skipLines (String.ofList body)).map .pattern
  | none => .ok (.beginning pattern)

/-- Whether a line is passed over. -/
def fits (line : String) : Skip → Bool
  | beginning text => Text.startsWith text.toList line.toList
  | pattern regex => regex.isMatch line

end Skip

/-- A setting that counts only when it is not blank in the given sense. -/
def present? (isAbsent : String → Bool) (setting : Option String) : Option String :=
  setting.filter fun s => !isAbsent s

/-- Compiles the way of reading that settings ask for. -/
def Strategy.compile (settings : Settings) (fields : List String) : Except Fault Strategy :=
  match settings.kind with
  | .split => .ok (split settings.delimiter)
  | .regex =>
    match present? (· == "") settings.regex with
    | none => .error .missingPattern
    | some pattern =>
      (compilePattern .regex pattern).map fun r => regex r (settings.regexGroups.getD fields)
  | .json => .ok json
  | .custom =>
    match present? (fun s => (Text.trim s.toList).isEmpty) settings.customParser with
    | none => .error .missingProgram
    | some source =>
      match Script.Program.compile source with
      | .ok program => .ok (custom program)
      | .error fault => .error (.program fault)

/-- The number of characters of a line that are shown in the log. -/
def previewLength : Nat := 200

/-- The part of a line that is shown in the log. -/
def preview (line : String) : Json :=
  .str (String.ofList (line.toList.take previewLength))

/-- The value of a JSON member: simple values as they are, all others as their text. -/
def fieldOfJson : Json → FieldValue
  | .bool b => .bool b
  | .str s => .text s
  | .int n => if Int64.minValue.toInt ≤ n && n ≤ Int64.maxValue.toInt then .int (Int64.ofInt n) else .float (Float.ofInt n)
  | .float x => .float x
  | other => .text (String.ofList other.compact)

/-- The values of the named members of an object. -/
def namedMembers (fields : List String) (members : List (String × Json)) : Fields :=
  Dict.ofList (fields.filterMap fun name => (members.lookup name).map fun v => (name, fieldOfJson v))

/-- The values that the groups of a match give to names; a group that took no part counts as empty. -/
def namedGroups (names : List String) (groups : List (Option String)) : Fields :=
  Dict.ofList (names.mapIdx fun i name => (name, FieldValue.coerce ((groups.getD (i + 1) none).getD "")))

/-- Reads the fields of a line that was trimmed and is not passed over. -/
def Strategy.fields? (names : List String) (line : String) : Strategy → Traced (Option Fields)
  | split delimiter =>
    let pieces := (Text.split delimiter.toList line.toList).map fun p => String.ofList (Text.trim p)
    if pieces.length < names.length then do
      Traced.log .debug "Not enough fields in line"
        [("expected", .int names.length), ("got", .int pieces.length), ("line", preview line)]
      pure none
    else pure (some (Dict.ofList ((names.zip pieces).map fun e => (e.1, FieldValue.coerce e.2))))
  | regex r names => pure ((r.captures? line).map (namedGroups names))
  | json =>
    match Json.ofText line with
    | .error _ => do
      Traced.log .debug "Failed to parse line as JSON" [("line", preview line)]
      pure none
    | .ok (.obj members) => pure (some (namedMembers names members))
    | .ok _ => do
      Traced.log .debug "JSON line is not an object" [("line", preview line)]
      pure none
  | custom program =>
    match program.evaluate line with
    | .fields fields => pure (some fields)
    | .rejected => pure none
    | .failed failure => do
      Traced.log .error "Custom parser failed" [("line", preview line), ("error", .str failure.message)]
      pure none

namespace Parser

/-- Compiles settings; skip patterns are looked at first. -/
def compile? (settings : Settings) (fields : List String) : Except Fault Parser := do
  let skips ← (settings.skipLines.filter (· != "")).mapM Skip.compile
  let strategy ← Strategy.compile settings fields
  .ok { strategy, fields, skips }

/-- Compiles settings and logs success. -/
def compile (settings : Settings) (fields : List String) : Traced (Except Fault Parser) :=
  match compile? settings fields with
  | .ok p => do
    Traced.log .debug "Line parser configured"
      [("parser", .str settings.kind.label), ("fields", .int fields.length), ("skip_patterns", .int p.skips.length)]
    pure (.ok p)
  | .error fault => pure (.error fault)

/-- Reads a line; the reading is stamped with the given time. -/
def read (p : Parser) (now : Int) (line : String) : Traced (Option Reading) :=
  let line := String.ofList (Text.trim line.toList)
  if p.skips.any (·.fits line) then do
    Traced.log .debug "Line skipped by skip pattern" [("line", preview line)]
    pure none
  else do
    let fields ← p.strategy.fields? p.fields line
    pure (fields.map fun fields => { timestamp := now, raw := line, fields })

/-- Why a line that is shown to the user is not accepted. -/
inductive LineFault where
  | unread
  | missing (fields : List String)
  deriving DecidableEq, Repr

/-- The wording of a cause. -/
def LineFault.message : LineFault → String
  | unread => "Failed to parse line"
  | missing fields => "Missing fields: " ++ ", ".intercalate fields

/-- Reads a line that must give every field a value. -/
def validate (p : Parser) (now : Int) (line : String) : Traced (Except LineFault Reading) := do
  match ← p.read now line with
  | none => pure (.error .unread)
  | some reading =>
    match p.fields.filter fun name => (reading.fields.get? name).isNone with
    | [] => pure (.ok reading)
    | missing => pure (.error (.missing missing))

end Parser

end SampleRecorder.Line
