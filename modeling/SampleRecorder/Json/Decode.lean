import SampleRecorder.Dict
import SampleRecorder.Json.Raw

/-!
# From JSON text to values

Decoders walk a raw tree from left to right and stop at the first fault.  `decodeAny` takes any document as a JSON
value; the others ask for one type.  Arrays and objects that are used may nest `depthLimit` deep; those that are only
skipped may nest freely.
-/

namespace SampleRecorder.Json

/-- Arrays and objects may nest less deep than this. -/
def depthLimit : Nat := 128

/-- The cause at the end of an array or object, for a reader that uses it. -/
def finish (ending : Option Break) : Except Cause Unit :=
  match ending with
  | some b => .error b.used
  | none => .ok ()

/-- The cause at the end of an array or object, for a reader that skips it. -/
def finishSkip (ending : Option Break) : Except Cause Unit :=
  match ending with
  | some b => .error b.skipped
  | none => .ok ()

mutual

/-- Passes over a value that is not used. -/
def skipValue : Raw → Except Cause Unit
  | .broken b => .error b.skipped
  | .null | .bool _ | .number _ | .str _ => .ok ()
  | .arr items ending => do
    skipItems items
    finishSkip ending
  | .obj members ending => do
    skipMembers members
    finishSkip ending

/-- Passes over the items of an array. -/
def skipItems : List Raw → Except Cause Unit
  | [] => .ok ()
  | a :: rest => do
    skipValue a
    skipItems rest

/-- Passes over the members of an object. -/
def skipMembers : List (Except Cause String × Raw) → Except Cause Unit
  | [] => .ok ()
  | (_, v) :: rest => do
    skipValue v
    skipMembers rest

end

/-- The number as a JSON value. -/
def Numeric.toJson : Numeric → Json
  | int n => .int n
  | float x => .float x

mutual

/-- A document as a JSON value, inside `depth` others; members of an object are sorted, and later ones win. -/
def decodeAny (depth : Nat) : Raw → Except Cause Json
  | .broken b => .error b.used
  | .null => .ok .null
  | .bool b => .ok (.bool b)
  | .number n => n.map Numeric.toJson
  | .str s => s.map .str
  | .arr items ending =>
    if depthLimit ≤ depth + 1 then .error .malformed
    else do
      let items ← decodeItems (depth + 1) items
      finish ending
      .ok (.arr items)
  | .obj members ending =>
    if depthLimit ≤ depth + 1 then .error .malformed
    else do
      let members ← decodeMembers (depth + 1) members
      finish ending
      .ok (.obj (Dict.ofList members).entries)

/-- The items of an array as JSON values. -/
def decodeItems (depth : Nat) : List Raw → Except Cause (List Json)
  | [] => .ok []
  | a :: rest => do
    let v ← decodeAny depth a
    let vs ← decodeItems depth rest
    .ok (v :: vs)

/-- The members of an object as JSON values. -/
def decodeMembers (depth : Nat) : List (Except Cause String × Raw) → Except Cause (List (String × Json))
  | [] => .ok []
  | (k, a) :: rest => do
    let k ← k
    let v ← decodeAny depth a
    let vs ← decodeMembers depth rest
    .ok ((k, v) :: vs)

end

/-- Reads a whole document with a decoder; text behind the document is a fault found last. -/
def decodeText {α : Type} (decode : Raw → Except Cause α) (s : String) : Except Cause α := do
  let (raw, behind) := Raw.read s.toList
  let v ← decode raw
  match behind with
  | some c => .error c
  | none => .ok v

/-- The JSON value that a text spells. -/
def ofText (s : String) : Except Cause Json :=
  decodeText (decodeAny 0) s

end SampleRecorder.Json
