import SampleRecorder.Regex.Escape

/-!
# Bracketed classes

Reading `[...]`: single characters, ranges, escapes, nested classes, ASCII classes between colons, and the operations
`&&`, `--` and `~~`, which all bind equally and to the left.  Beside the set, the reader reports how deep the class
nests.
-/

namespace SampleRecorder.Regex.Bracket

open SampleRecorder.Text (CodeSet)

/-- A set that was read, with the depth of its nesting. -/
structure Part where
  set : CodeSet
  depth : Nat

/-- A single character. -/
def Part.single (c : Char) : Part :=
  ⟨.ofList [c], 0⟩

/-- What was read of the current operand, last first, as one set. -/
def gather (items : List Part) : Part :=
  match items with
  | [] => ⟨.empty, 0⟩
  | [a] => a
  | _ => ⟨.unions (items.map (·.set)), 1 + (items.map (·.depth)).foldl max 0⟩

/-- A set operation between operands. -/
inductive Op where
  | inter
  | diff
  | symmDiff

/-- The operand so far combined with the one that has just ended. -/
def combine (f : Flags) (left : Option (Part × Op)) (right : Part) : Part :=
  match left with
  | none => right
  | some (l, op) =>
    let a := f.fold l.set
    let b := f.fold right.set
    let set :=
      match op with
      | .inter => a.inter b
      | .diff => a.without b
      | .symmDiff => (a.union b).without (a.inter b)
    ⟨set, 1 + max l.depth right.depth⟩

/-- A class as a whole: its case variants, then its complement if it is negated. -/
def close? (f : Flags) (negated : Bool) (p : Part) : Option Part :=
  (f.negate? negated (f.fold p.set)).map fun set => ⟨set, 1 + p.depth⟩

/-- Hyphens that stand first in a class are characters. -/
def leadingHyphens (f : Flags) : Nat → List Part → List Char → List Part × List Char
  | 0, items, s => (items, s)
  | fuel + 1, items, s =>
    match s with
    | '-' :: r => leadingHyphens f fuel (Part.single '-' :: items) (f.skip r)
    | _ => (items, s)

/-- What follows an opening bracket: whether the class is negated, and the characters that are literal only here. -/
def open? (f : Flags) (s : List Char) : Option (Bool × List Part × List Char) :=
  let (negated, s) :=
    match f.skip s with
    | '^' :: r => (true, f.skip r)
    | r => (false, r)
  let (items, s) := leadingHyphens f s.length [] s
  match items, s with
  | _, [] => none
  | [], ']' :: r => if (f.skip r).isEmpty then none else some (negated, [Part.single ']'], f.skip r)
  | items, s => some (negated, items, s)

/-- An ASCII class such as `[:alpha:]`, after its opening bracket, and whether it is negated. -/
def posix? (s : List Char) : Option (Bool × CodeSet × List Char) :=
  match s with
  | ':' :: s =>
    let (negated, s) :=
      match s with
      | '^' :: r => (true, r)
      | r => (false, r)
    match s.span (· != ':') with
    | (name, ':' :: ']' :: rest) => (Property.posix? (String.ofList name)).map fun set => (negated, set, rest)
    | _ => none
  | _ => none

/-- One character or escape. -/
def item? (f : Flags) : List Char → Option (Escape × List Char)
  | [] => none
  | '\\' :: r => Escape.read? f r
  | c :: r => some (.char c, r)

/-- A range, a single character or an escape that stands for a set. -/
def range? (f : Flags) (s : List Char) : Option (Part × List Char) :=
  (item? f s).bind fun (first, rest) =>
    let alone : Option (Part × List Char) :=
      match first with
      | .char c => if !f.unicode && 0x80 ≤ c.toNat then none else some (.single c, rest)
      | .set s => some (⟨s, 0⟩, rest)
      | .look _ => none
    match f.skip rest with
    | [] => none
    | '-' :: r =>
      let ahead := (f.skip r).head?
      if ahead == some ']' || ahead == some '-' then alone.map fun (p, _) => (p, '-' :: r)
      else
        (item? f (f.skip r)).bind fun (last, rest) =>
          match first, last with
          | .char a, .char b =>
            if b.val < a.val || (!f.unicode && 0x80 ≤ b.toNat) then none
            else some (⟨.range a.toNat b.toNat, 0⟩, rest)
          | _, _ => none
    | r => alone.map fun (p, _) => (p, r)

/-- Reads a class up to its closing bracket; `items` are those of the current operand, last first. -/
def items? (f : Flags) : Nat → Option (Part × Op) → List Part → List Char → Option (Part × List Char)
  | 0, _, _, _ => none
  | fuel + 1, left, items, s =>
    let operate (op : Op) (r : List Char) : Option (Part × List Char) :=
      items? f fuel (some (combine f left (gather items), op)) [] r
    match f.skip s with
    | [] => none
    | '[' :: r =>
      match posix? r with
      | some (negated, set, rest) =>
        (f.negate? negated (f.fold set)).bind fun set => items? f fuel left (⟨set, 0⟩ :: items) rest
      | none =>
        (open? f r).bind fun (negated, first, inner) =>
          (items? f fuel none first inner).bind fun (p, rest) =>
            (close? f negated p).bind fun whole => items? f fuel left (whole :: items) rest
    | ']' :: r => some (combine f left (gather items), r)
    | '&' :: '&' :: r => operate .inter r
    | '-' :: '-' :: r => operate .diff r
    | '~' :: '~' :: r => operate .symmDiff r
    | r => (range? f r).bind fun (p, rest) => items? f fuel left (p :: items) rest

/-- Reads a class after its opening bracket. -/
def read? (f : Flags) (s : List Char) : Option (Part × List Char) :=
  (open? f s).bind fun (negated, first, inner) =>
    (items? f (s.length + 1) none first inner).bind fun (p, rest) =>
      (close? f negated p).map fun whole => (whole, rest)

end SampleRecorder.Regex.Bracket
