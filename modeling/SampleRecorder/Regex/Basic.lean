import SampleRecorder.Regex.Footprint
import SampleRecorder.Regex.Pattern
import SampleRecorder.Regex.Search

/-!
# Regular expressions

The patterns that users write in parser settings, rules and line programs.  `Regex.compile?` reads a pattern,
`Regex.isMatch` looks for it anywhere in a text, and `Regex.captures?` gives the texts of its groups.
-/

namespace SampleRecorder

/-- A compiled pattern. -/
structure Regex where
  pattern : String
  names : List (Option String)
  program : Regex.Program

namespace Regex

/-- Why a pattern is refused. -/
inductive Fault where
  | malformed
  | tooLarge
  deriving DecidableEq, Repr

/-- The report on a refused pattern; on a malformed one it is only a heading. -/
def Fault.message : Fault → String
  | .malformed => "regex parse error:"
  | .tooLarge => s!"Compiled regex exceeds size limit of {sizeLimit} bytes."

/-- Reads a pattern; the flags hold until the pattern changes them. -/
def compile? (pattern : String) (flags : Flags := {}) : Except Fault Regex :=
  match parse? flags pattern.toList with
  | none => .error .malformed
  | some (node, names) =>
    if node.fits then .ok ⟨pattern, names.take node.groupCount, Program.ofNode node⟩
    else .error .tooLarge

/-- Whether the pattern matches somewhere in the text. -/
def isMatch (r : Regex) (text : String) : Bool :=
  (r.program.search text.toList).isSome

/-- The text of each group, group 0 first; a group that took no part has none. -/
def captures? (r : Regex) (text : String) : Option (List (Option String)) :=
  (r.program.search text.toList).map fun slots =>
    (List.range r.names.length).map fun i =>
      match slots.getD (2 * i) none, slots.getD (2 * i + 1) none with
      | some a, some b => some (String.ofList ((text.toList.drop a).take (b - a)))
      | _, _ => none

/-- The number of groups, group 0 included. -/
def groupCount (r : Regex) : Nat :=
  r.names.length

end Regex

end SampleRecorder
