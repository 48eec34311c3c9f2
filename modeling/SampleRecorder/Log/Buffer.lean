import SampleRecorder.Calendar
import SampleRecorder.Json.Basic
import SampleRecorder.Log.Level

/-!
# The log buffer

The most recent log entries, bounded in number.  An entry below the least level in force is not taken, and a full
buffer drops its oldest entries.
-/

namespace SampleRecorder.Log

/-- A captured event with the instant of its capture. -/
structure Entry where
  millis : Int
  level : Level
  message : String
  data : Option Json

/-- The entry as one line of an exported log. -/
def Entry.line (e : Entry) : String :=
  let time := String.ofList (Calendar.isoText e.millis)
  let label := e.level.label
  let head := s!"[{time}] [{label}] " ++ e.message
  match e.data with
  | some data => head ++ " | " ++ String.ofList data.compact
  | none => head

/-- The captured entries, oldest first, with the greatest number kept and the least level taken. -/
structure Buffer where
  entries : List Entry
  capacity : Nat
  least : Level

namespace Buffer

/-- A buffer without entries; it keeps at least one. -/
def empty (capacity : Nat) (least : Level) : Buffer :=
  ⟨[], max capacity 1, least⟩

/-- The last `n` entries of a list. -/
def newest (n : Nat) (entries : List Entry) : List Entry :=
  entries.drop (entries.length - n)

/-- Takes an entry, if it is severe enough. -/
def push (b : Buffer) (e : Entry) : Buffer :=
  if e.level.reaches b.least then { b with entries := newest b.capacity (b.entries ++ [e]) } else b

/-- Changes how many entries are kept. -/
def setCapacity (b : Buffer) (capacity : Nat) : Buffer :=
  { b with capacity := max capacity 1, entries := newest (max capacity 1) b.entries }

/-- Changes the least level that is taken. -/
def setLeast (b : Buffer) (least : Level) : Buffer :=
  { b with least }

/-- Drops all entries. -/
def clear (b : Buffer) : Buffer :=
  { b with entries := [] }

/-- The entries of one level. -/
def ofLevel (b : Buffer) (level : Level) : List Entry :=
  b.entries.filter (·.level == level)

/-- All entries as text, one line for each. -/
def text (b : Buffer) : String :=
  "\n".intercalate (b.entries.map Entry.line)

end Buffer

end SampleRecorder.Log
