import SampleRecorder.Calendar
import SampleRecorder.Reading
import SampleRecorder.Text.Class
import SampleRecorder.Text.Search

/-!
# Export templates

A template is text with placeholders such as `${label}`.  It is compiled once against the configured fields and then
rendered once per sample; values are quoted as cells of comma-separated text.
-/

namespace SampleRecorder.Export

/-- What a placeholder stands for. -/
inductive Slot where
  | timestamp
  | recordedAt
  | label
  | raw
  | field (name : String)
  | unknown (name : String)
  deriving DecidableEq, Repr

/-- The slot of a name, given the configured fields. -/
def Slot.ofName (fields : List String) (name : String) : Slot :=
  if name = "timestamp" then timestamp
  else if name = "recordedAt" then recordedAt
  else if name = "label" then label
  else if name = "raw" then raw
  else if fields.contains name then field name
  else unknown name

/-- A part of a template: text as it is, or the name between the braces of a placeholder. -/
inductive Part where
  | text (s : List Char)
  | placeholder (name : List Char)
  deriving DecidableEq, Repr

/-- Text as a part, unless it is empty. -/
def Part.ofText (s : List Char) : List Part :=
  if s = [] then [] else [.text s]

/-- How a placeholder begins. -/
def opening : List Char := ['$', '\x7b']

/-- The parts of a template, and whether a placeholder is left open; one without a name is text. -/
def parts (s : List Char) : List Part × Bool :=
  match h : Text.cut? opening s with
  | none => (Part.ofText s, false)
  | some (before, after) =>
    match h' : Text.cut? ['\x7d'] after with
    | none => ([.text s], true)
    | some (name, rest) =>
      have : rest.length < s.length :=
        Nat.lt_trans (Text.length_lt_of_cut? (by simp) h') (Text.length_lt_of_cut? (by simp [opening]) h)
      let (more, isOpen) := parts rest
      if name = [] then (.text (before ++ opening ++ ['\x7d']) :: more, isOpen)
      else (Part.ofText before ++ .placeholder name :: more, isOpen)
termination_by s.length

/-- A part with its placeholder resolved. -/
inductive Segment where
  | text (s : String)
  | placeholder (name : String) (slot : Slot)
  deriving DecidableEq, Repr

/-- The part with its placeholder looked up among the configured fields. -/
def Segment.ofPart (fields : List String) : Part → Segment
  | .text s => text (String.ofList s)
  | .placeholder name => placeholder (String.ofList name) (Slot.ofName fields (String.ofList name))

/-- A compiled template. -/
structure Template where
  source : String
  segments : List Segment
  isOpen : Bool

/-- A value as a cell: quoted when it holds a comma, a quote or a line feed. -/
def cell (value : String) : String :=
  if value.toList.any fun c => c = ',' || c = '"' || c = '\n' then
    "\"" ++ String.ofList (Text.replace ['"'] ['"', '"'] value.toList) ++ "\""
  else value

/-- The value of a slot in a sample. -/
def Slot.render (s : Sample) : Slot → String
  | timestamp => String.ofList (Number.ofInt s.reading.timestamp)
  | recordedAt => String.ofList (Number.ofInt s.recordedAt)
  | label => cell (s.label.getD "")
  | raw => cell s.reading.raw
  | field name => cell (((s.reading.fields.get? name).map FieldValue.display).getD "")
  | unknown name => "$\x7b" ++ name ++ "\x7d"

/-- What is wrong with a template: warnings name unknown fields, errors forbid the export. -/
structure Check where
  warnings : List String
  errors : List String
  deriving DecidableEq, Repr

/-- Whether nothing forbids the export. -/
def Check.isValid (c : Check) : Bool :=
  c.errors.isEmpty

namespace Template

/-- Compiles a template. -/
def compile (source : String) (fields : List String) : Template :=
  let (list, isOpen) := parts source.toList
  ⟨source, list.map (Segment.ofPart fields), isOpen⟩

/-- The names of the placeholders in order. -/
def placeholders (t : Template) : List String :=
  t.segments.filterMap fun s => match s with | .placeholder name _ => some name | .text _ => none

/-- The header line. -/
def header (t : Template) : String :=
  ",".intercalate t.placeholders

/-- A segment in a sample. -/
def renderSegment (s : Sample) : Segment → String
  | .text text => text
  | .placeholder _ slot => slot.render s

/-- The line of a sample. -/
def row (t : Template) (s : Sample) : String :=
  String.join (t.segments.map (renderSegment s))

/-- The header, if it is wanted, and the line of each sample. -/
def lines (t : Template) (samples : List Sample) (withHeader : Bool) : List String :=
  (if withHeader then [t.header] else []) ++ samples.map t.row

/-- The text of an export. -/
def table (t : Template) (samples : List Sample) (withHeader : Bool) : String :=
  "\n".intercalate (t.lines samples withHeader)

/-- The first lines of an export, with a remark on how many rows are left out. -/
def preview (t : Template) (samples : List Sample) (most : Nat) (withHeader : Bool) : List String :=
  let left := samples.length - most
  t.lines (samples.take most) withHeader ++ if left = 0 then [] else [s!"... and {left} more rows"]

/-- Looks for unknown fields, for a template without content, and for a placeholder that is left open. -/
def check (t : Template) : Check where
  warnings := t.segments.filterMap fun s =>
    match s with
    | .placeholder _ (.unknown name) => some ("Unknown field in template: " ++ name)
    | _ => none
  errors :=
    (if (Text.trim t.source.toList).isEmpty then ["Template is empty"] else []) ++
      if t.isOpen then ["Unclosed placeholder in template"] else []

end Template

/-- The ending of export files. -/
def extension : String := ".csv"

/-- A file name with the ending of export files. -/
def withExtension (name : String) : String :=
  if Text.endsWith extension.toList name.toList then name else name ++ extension

/-- A file name from its template: the instant in milliseconds, its date, and the instant as text without the signs
that file names avoid. -/
def fileName (template : String) (millis : Int) : String :=
  let iso := (Calendar.isoText millis).map fun c => if c = ':' || c = '.' then '-' else c
  let step (name : String) (value s : List Char) : List Char :=
    Text.replace ("$\x7b" ++ name ++ "\x7d").toList value s
  String.ofList
    (step "datetime" iso (step "date" (Calendar.dateText millis)
      (step "timestamp" (Number.ofInt millis) template.toList)))

end SampleRecorder.Export
