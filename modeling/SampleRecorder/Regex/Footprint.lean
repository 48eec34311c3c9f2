import SampleRecorder.Regex.Layout
import SampleRecorder.Regex.Node

/-!
# Memory of patterns

A pattern is laid out twice, for reading a text forwards and for reading it backwards; only the first layout saves
the bounds of groups.  `Node.footprint?` gives the memory of a layout, unless it exceeds the limit; since the count
stops there, counted repetitions of any size are decided.
-/

namespace SampleRecorder.Regex

/-- Which way a text is read. -/
inductive Direction where
  | forward
  | backward
  deriving DecidableEq, Repr

namespace Node

/-- The words of a choice between several literals. -/
def words? : Node → Option (List (List Char))
  | alt a b => (branches (alt a b)).mapM fun
    | literal cs => some cs
    | _ => none
  | _ => none

/-- The layout of a pattern with the given alternatives. -/
def layoutOf (d : Direction) (n : Node) (alternatives : List (Layout Bool)) : Layout Bool :=
  match n.words? with
  | some words => do
    let bytes := words.map Text.Utf8.encode
    Layout.words (match d with | .forward => bytes | .backward => bytes.map List.reverse)
    return false
  | none => Layout.fork alternatives

/-- The layout of a set. -/
def layoutSet (d : Direction) (s : Text.CodeSet) : Layout Unit :=
  if s.isBelow 0x80 then Layout.asciiSet s.ranges.length
  else
    match d with
    | .forward => Layout.forwardSet (ByteSequence.ofSet s)
    | .backward => Layout.backwardSet (ByteSequence.ofSet s)

/-- The layouts of the alternatives of a pattern.  Each tells whether it ends in a fork. -/
def layouts (d : Direction) : Node → List (Layout Bool)
  | empty | look _ => [do Layout.plain; return false]
  | literal cs => [do Layout.charge ⟨(String.ofList cs).utf8ByteSize, 0⟩; return false]
  | set s => [do layoutSet d s; return false]
  | group _ body =>
    let inner := layoutOf d body (layouts d body)
    match d with
    | .forward => [do Layout.plain; let e ← inner; Layout.plain; Layout.link e; return false]
    | .backward => [inner]
  | seq a b =>
    let first := layoutOf d a (layouts d a)
    let second := layoutOf d b (layouts d b)
    match d with
    | .forward => [do let e ← first; let f ← second; Layout.link e; return f]
    | .backward => [do let e ← second; let f ← first; Layout.link e; return f]
  | alt a b => layouts d a ++ layouts d b
  | star min _ body =>
    [Layout.atLeast (layoutOf d body (layouts d body)) (body.least?.any (0 < ·)) min]
  | bounded min max _ body =>
    let inner := layoutOf d body (layouts d body)
    [if min = 0 && max = 1 then Layout.maybe inner else Layout.between inner min max]

/-- The layout of a pattern that may begin anywhere in a text, unless it is bound to the text's end where reading
begins, up to the final state. -/
def layout (d : Direction) (n : Node) : Layout Unit := do
  let isBound := match d with | .forward => n.startsAtTextStart | .backward => n.endsAtTextEnd
  Layout.charge (if isBound then ⟨1, 0⟩ else ⟨3, 16⟩)
  let whole := match d with | .forward => group 0 n | .backward => n
  let e ← layoutOf d whole (layouts d whole)
  Layout.plain
  Layout.link e

/-- The memory of a layout in bytes, unless it exceeds the limit. -/
def footprint? (d : Direction) (n : Node) : Option Nat :=
  ((n.layout d).run {}).map fun (_, t) => t.bytes

/-- Whether both layouts of a pattern keep to the limit. -/
def fits (n : Node) : Bool :=
  (n.footprint? .forward).isSome && (n.footprint? .backward).isSome

end Node

end SampleRecorder.Regex
