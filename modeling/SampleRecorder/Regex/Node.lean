import SampleRecorder.Text.Casing
import SampleRecorder.Text.Class

/-!
# Pattern trees

The tree that a pattern text stands for.  Sequences and alternatives lean to the right, and trees are built in a
simple form: `Node.sequence` joins neighbouring literals, `Node.choice` turns alternatives of single characters into
one set and takes a common beginning out of all alternatives, and `Node.repeated` repeats a body that can only match
the empty text at most once.
-/

namespace SampleRecorder.Regex

open SampleRecorder.Text (CodeSet)

/-- A condition on a position between two characters. -/
inductive Look where
  | textStart
  | textEnd
  | lineStart
  | lineEnd
  | carriageLineStart
  | carriageLineEnd
  | boundary (ascii negated : Bool)
  | wordStart (ascii : Bool)
  | wordEnd (ascii : Bool)
  | halfStart (ascii : Bool)
  | halfEnd (ascii : Bool)
  deriving DecidableEq, Repr

/-- A pattern. -/
inductive Node where
  | empty
  | literal (cs : List Char)
  | set (s : CodeSet)
  | look (l : Look)
  | group (index : Nat) (body : Node)
  | seq (a b : Node)
  | alt (a b : Node)
  | star (min : Nat) (greedy : Bool) (body : Node)
  | bounded (min max : Nat) (greedy : Bool) (body : Node)
  deriving DecidableEq

namespace Node

/-! ### What a pattern matches -/

/-- The least number of bytes of a match; a set without members has none. -/
def least? : Node → Option Nat
  | empty | look _ => some 0
  | literal cs => some (String.ofList cs).utf8ByteSize
  | set s => s.changes.head?.map fun n => (Char.ofNat n).utf8Size
  | group _ body => body.least?
  | seq a b => do return (← a.least?) + (← b.least?)
  | alt a b => do return Nat.min (← a.least?) (← b.least?)
  | star min _ body => body.least?.map (min * ·)
  | bounded min _ _ body => body.least?.map (min * ·)

/-- Whether every match is empty. -/
def isWidthless : Node → Bool
  | empty | look _ => true
  | literal _ | set _ | star .. => false
  | group _ body => body.isWidthless
  | seq a b | alt a b => a.isWidthless && b.isWidthless
  | bounded _ _ _ body => body.isWidthless

/-- Whether the pattern asks for the beginning of the text before it matches anything. -/
def startsAtTextStart : Node → Bool
  | look l => l == .textStart
  | empty | literal _ | set _ => false
  | group _ body => body.startsAtTextStart
  | seq a b => a.startsAtTextStart || (a.isWidthless && b.startsAtTextStart)
  | alt a b => a.startsAtTextStart && b.startsAtTextStart
  | star min _ body | bounded min _ _ body => min != 0 && body.startsAtTextStart

/-- Whether the pattern asks for the end of the text after everything that it matches. -/
def endsAtTextEnd : Node → Bool
  | look l => l == .textEnd
  | empty | literal _ | set _ => false
  | group _ body => body.endsAtTextEnd
  | seq a b => b.endsAtTextEnd || (b.isWidthless && a.endsAtTextEnd)
  | alt a b => a.endsAtTextEnd && b.endsAtTextEnd
  | star min _ body | bounded min _ _ body => min != 0 && body.endsAtTextEnd

/-- One more than the greatest group number that is left in the pattern. -/
def groupCount : Node → Nat
  | empty | literal _ | set _ | look _ => 1
  | group index body => max (index + 1) body.groupCount
  | seq a b | alt a b => max a.groupCount b.groupCount
  | star _ _ body | bounded _ _ _ body => body.groupCount

/-! ### Building patterns -/

/-- The pattern for one character of a set; a set of a single character is that character. -/
def ofSet (s : CodeSet) : Node :=
  match s.only? with
  | some n => literal [Char.ofNat n]
  | none => set s

/-- A body repeated from `min` to `max` times, without an upper bound when `max` is absent. -/
def repeated (min : Nat) (max : Option Nat) (greedy : Bool) (body : Node) : Node :=
  let (least, most) := if body.isWidthless then (Nat.min min 1, some ((max.getD 1).min 1)) else (min, max)
  match most with
  | some 0 => empty
  | some 1 => if least = 1 then body else bounded 0 1 greedy body
  | some n => bounded least n greedy body
  | none => star least greedy body

/-- The parts of a sequence. -/
def parts : Node → List Node
  | empty => []
  | seq a b => a :: b.parts
  | n => [n]

/-- The alternatives of a choice. -/
def branches : Node → List Node
  | alt a b => a :: b.branches
  | n => [n]

/-- One part more at the beginning of a sequence; a literal joins a literal. -/
def addFront : Node → List Node → List Node
  | literal a, literal b :: rest => literal (a ++ b) :: rest
  | n, rest => n :: rest

/-- Patterns one after the other. -/
def sequence (items : List Node) : Node :=
  chain ((items.flatMap parts).foldr addFront [])
where
  chain : List Node → Node
    | [] => empty
    | [a] => a
    | a :: rest => seq a (chain rest)

/-- The character of a literal that has only one. -/
def single? : Node → Option Char
  | literal [c] => some c
  | _ => none

/-- The set of a pattern for one character of a set. -/
def set? : Node → Option CodeSet
  | set s => some s
  | _ => none

/-- Whether the pattern is a sequence of several parts. -/
def isSequence : Node → Bool
  | seq .. => true
  | _ => false

/-- Alternatives as they stand, unless single characters or sets can be taken together. -/
def merged (items : List Node) : Node :=
  match items.mapM single?, items.mapM set? with
  | some cs, _ => ofSet (.ofList cs)
  | none, some sets => ofSet (.unions sets)
  | none, none => chain items
where
  chain : List Node → Node
    | [] => set .empty
    | [a] => a
    | a :: rest => alt a (chain rest)

/-- The common beginning of two sequences. -/
def shared : List Node → List Node → List Node
  | a :: as, b :: bs => if a = b then a :: shared as bs else []
  | _, _ => []

/-- The common beginning of all sequences. -/
def sharedByAll : List (List Node) → List Node
  | [] => []
  | row :: rows => rows.foldl shared row

/-- Patterns of which the first that matches counts. -/
def choice (items : List Node) : Node :=
  match items.flatMap branches with
  | [a] => a
  | items =>
    let rows := items.map parts
    let common := sharedByAll rows
    if common.isEmpty || !items.all isSequence then merged items
    else
      let rest := rows.map fun row => sequence (row.drop common.length)
      sequence (common ++ [merged (rest.flatMap branches)])

end Node

end SampleRecorder.Regex
