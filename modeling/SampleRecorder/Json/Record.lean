import SampleRecorder.Json.Decode

/-!
# Decoders of one type

Decoders for texts, truth values, numbers, names and lists, and for records.  A record is written as an object, whose
unknown members are skipped, or as an array of its values in the order of their declaration.  A value of the wrong
type is refused only after it has been read, so that a fault of its form goes first.
-/

namespace SampleRecorder.Json

/-- A reader of values of one type. -/
abbrev Decoder (α : Type) := Raw → Except Cause α

/-- The cause for which a value of another type is refused. -/
def refusal : Raw → Cause
  | .broken b => b.used
  | .number (.error c) => c
  | .str (.error c) => c
  | _ => .mismatch

namespace Decoder

variable {α σ : Type}

/-- A text. -/
def text : Decoder String
  | .str (.ok s) => .ok s
  | v => .error (refusal v)

/-- A truth value. -/
def flag : Decoder Bool
  | .bool b => .ok b
  | v => .error (refusal v)

/-- An integer from zero to a limit. -/
def natural (limit : Nat) : Decoder Nat
  | .number (.ok (.int n)) => if 0 ≤ n ∧ n ≤ limit then .ok n.toNat else .error .mismatch
  | v => .error (refusal v)

/-- A value or nothing, for which `null` stands. -/
def nullable (decode : Decoder α) : Decoder (Option α)
  | .null => .ok none
  | v => (decode v).map some

/-- A list of values. -/
def list (decode : Decoder α) : Decoder (List α)
  | .arr items ending => do
    let values ← items.mapM decode
    finish ending
    .ok values
  | v => .error (refusal v)

/-- The thing that a name stands for. -/
def named (names : List (String × α)) (name : String) : Except Cause α :=
  match names.lookup name with
  | some a => .ok a
  | none => .error .mismatch

/-- One of several names, as a text or as an object with the name as its only key and nothing under it. -/
def choice (names : List (String × α)) : Decoder α
  | .str name => name.bind (named names)
  | .obj ((name, content) :: rest) ending => do
    let a ← name.bind (named names)
    match content with
    | .null => .ok ()
    | v => .error (refusal v)
    if rest.isEmpty then finish ending else .error .malformed
    .ok a
  | .obj [] (some b) => .error b.used
  | .broken b => .error b.named
  | _ => .error .malformed

end Decoder

/-! ## Records -/

/-- One member of a record: its key, whether a record needs it, and how its value is put into the record. -/
structure Member (σ : Type) where
  key : String
  isRequired : Bool
  put : Raw → σ → Except Cause σ

namespace Member

variable {α σ : Type}

/-- A member that every record has. -/
def required (key : String) (decode : Decoder α) (set : α → σ → σ) : Member σ :=
  ⟨key, true, fun v s => (decode v).map (set · s)⟩

/-- A member that may be left out. -/
def optional (key : String) (decode : Decoder α) (set : α → σ → σ) : Member σ :=
  ⟨key, false, fun v s => (decode v).map (set · s)⟩

/-- Reads the members of an object in their order; `seen` lists the keys that have been met. -/
def readObject (members : List (Member σ)) (seen : List String) (s : σ) :
    List (Except Cause String × Raw) → Except Cause (List String × σ)
  | [] => .ok (seen, s)
  | (key, v) :: rest => do
    let key ← key
    match members.find? (·.key == key) with
    | none => do
      skipValue v
      readObject members seen s rest
    | some m =>
      if seen.contains key then .error .mismatch
      else do
        let s ← m.put v s
        readObject members (key :: seen) s rest

/-- Reads values in the order of the members; `ending` is how the array ends. -/
def readArray (ending : Option Break) : List (Member σ) → σ → List Raw → Except Cause σ
  | [], s, [] => do
    finish ending
    .ok s
  | [], _, _ :: _ => .error .malformed
  | m :: members, s, [] => do
    finish ending
    if (m :: members).any (·.isRequired) then .error .mismatch else .ok s
  | m :: members, s, v :: rest => do
    let s ← m.put v s
    readArray ending members s rest

end Member

/-- A record, from what it holds where nothing is set. -/
def Decoder.record {σ : Type} (members : List (Member σ)) (start : σ) : Decoder σ
  | .obj entries ending => do
    let (seen, s) ← Member.readObject members [] start entries
    finish ending
    if members.all fun m => !m.isRequired || seen.contains m.key then .ok s else .error .mismatch
  | .arr items ending => Member.readArray ending members start items
  | v => .error (refusal v)

end SampleRecorder.Json
