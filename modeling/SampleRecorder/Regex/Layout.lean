import SampleRecorder.Regex.ByteSequence
import Std.Data.HashMap

/-!
# Layouts

A pattern is laid out as a machine over bytes whose memory is counted state by state: each state has a fixed size,
and the transitions or branches that it lists are added to it.  A layout is given up as soon as its memory exceeds
the limit.  Sets of characters share equal states as far as these are remembered, and alternatives that are all
words share their beginnings.
-/

namespace SampleRecorder.Regex

/-- The greatest memory of a layout in bytes. -/
def sizeLimit : Nat := 10485760

/-- The number of states, and the bytes of the lists in them. -/
structure Tally where
  states : Nat := 0
  lists : Nat := 0
  deriving DecidableEq, Repr

namespace Tally

/-- The memory in bytes. -/
def bytes (t : Tally) : Nat :=
  32 * t.states + t.lists

/-- Two tallies together. -/
def add (t u : Tally) : Tally :=
  ⟨t.states + u.states, t.lists + u.lists⟩

/-- A state that lists transitions. -/
def transitions (count : Nat) : Tally :=
  ⟨1, 8 * count⟩

/-- Branches that are added to states. -/
def branches (count : Nat) : Tally :=
  ⟨0, 4 * count⟩

end Tally

/-- A piece of a layout, which is given up once the limit is exceeded. -/
abbrev Layout := StateT Tally Option

namespace Layout

/-- Adds states and lists. -/
def charge (cost : Tally) : Layout Unit := fun t =>
  let t := t.add cost
  if sizeLimit < t.bytes then none else some ((), t)

/-- A state that lists this many transitions; gives its number. -/
def state (transitions : Nat) : Layout Nat := do
  let number := (← get).states
  charge (.transitions transitions)
  return number

/-- A state without lists. -/
def plain : Layout Unit :=
  charge ⟨1, 0⟩

/-- Leads the end of a piece on, which takes a branch when it ends in a fork. -/
def link (endsInFork : Bool) : Layout Unit :=
  if endsInFork then charge (.branches 1) else pure ()

/-! ### Sets -/

/-- States that may be used again, by what they are made of.  A slot has room for one state, and the last one stays. -/
abbrev Remembered := Std.HashMap UInt64 (List Nat × Nat)

/-- A number for what a state is made of. -/
def digest (key : List Nat) : UInt64 :=
  key.foldl (fun h n => (h ^^^ UInt64.ofNat n) * 1099511628211) 14695981039346656037

/-- The state that is made of `key`: one that is remembered, or a new one. -/
def remember (slots : UInt64) (key : List Nat) (transitions : Nat) : StateT Remembered Layout Nat := do
  let slot := digest key % slots
  match (← get)[slot]? with
  | some (known, number) => if known = key then return number
  | none => pure ()
  let number ← state transitions
  modify (·.insert slot (key, number))
  return number

/-- A state whose transitions are still being collected, last first, and the range of the next one. -/
structure Growing where
  transitions : List (ByteRange × Nat) := []
  last : Option ByteRange := none

namespace Growing

/-- The state with its last range leading to `next`. -/
def freeze (g : Growing) (next : Nat) : Growing :=
  match g.last with
  | some range => ⟨(range, next) :: g.transitions, none⟩
  | none => g

/-- Lays the state out. -/
def finish (g : Growing) : StateT Remembered Layout Nat :=
  let transitions := g.transitions.reverse
  remember 10000 (transitions.flatMap fun (range, next) => [range.low, range.high, next]) transitions.length

/-- Finishes all states behind the first one, deepest first; the deepest leads to `target`. -/
def settle (target : Nat) (first : Growing) : List Growing → StateT Remembered Layout Growing
  | [] => return first.freeze target
  | second :: deeper => do
    let next ← settle target second deeper
    return first.freeze (← next.finish)

/-- Adds a sequence to a path of states.  States that it has in common with the one before are kept, and all others
are finished. -/
def extend (target : Nat) : List Growing → ByteSequence → StateT Remembered Layout (List Growing)
  | first :: deeper, range :: rest => do
    if first.last = some range && !rest.isEmpty then return first :: (← extend target deeper rest)
    else
      let settled ← settle target first deeper
      return { settled with last := some range } :: rest.map fun r => { last := some r }
  | path, _ => return path

end Growing

/-- A set that is read forwards. -/
def forwardSet (sequences : List ByteSequence) : Layout Unit := do
  let target ← state 0
  let build : StateT Remembered Layout Unit := do
    match ← sequences.foldlM (Growing.extend target) [{}] with
    | [] => pure ()
    | first :: deeper => discard (← Growing.settle target first deeper).finish
  build.run' ∅

/-- A set that is read backwards: a fork with a branch for each sequence, and equal ends are shared. -/
def backwardSet (sequences : List ByteSequence) : Layout Unit := do
  plain
  let join ← state 0
  let build : StateT Remembered Layout Unit :=
    sequences.forM fun sequence => do
      discard (sequence.foldlM (fun next range => remember 1000 [next, range.low, range.high] 0) join)
      charge (.branches 1)
  build.run' ∅

/-- A set of ASCII characters, which lists a transition for each range. -/
def asciiSet (ranges : Nat) : Layout Unit := do
  plain
  charge (.transitions ranges)

/-! ### Words -/

/-- The words between the empty ones.  Empty words at the beginning count as one. -/
def chunks (words : List (List UInt8)) : List (List (List UInt8)) :=
  let words := match words with
    | [] :: rest => [] :: rest.dropWhile (·.isEmpty)
    | words => words
  words.foldr (fun word later =>
    match word, later with
    | [], later => [] :: later
    | word, chunk :: later => (word :: chunk) :: later
    | word, [] => [[word]]) [[]]

/-- What follows the byte `b` in the words that begin with it. -/
def continuations (b : UInt8) (words : List (List UInt8)) : List (List UInt8) :=
  words.filterMap fun
    | c :: rest => if c = b then some rest else none
    | [] => none

/-- The tree of words that share their beginnings, for words of less than `fuel` bytes.  Where a word ends, the ways
on are divided into those before and after it in the order of preference. -/
def wordTree : Nat → List (List UInt8) → Tally
  | 0, _ => {}
  | fuel + 1, words =>
    if words.all (·.isEmpty) then {}
    else
      let parts := chunks words
      let filled := parts.filter (!·.isEmpty)
      let ways := filled.map fun chunk =>
        let firsts := (chunk.filterMap List.head?).eraseDups
        let state := Tally.transitions (if firsts.length = 1 then 0 else firsts.length)
        firsts.foldl (fun sum b => sum.add (wordTree fuel (continuations b chunk))) state
      ways.foldl Tally.add ⟨1, 4 * (filled.length + (parts.length - 1))⟩

/-- Alternatives that are all words. -/
def words (alternatives : List (List UInt8)) : Layout Unit := do
  plain
  charge (wordTree ((alternatives.map List.length).foldl max 0 + 1) alternatives)

/-! ### Repetitions and alternatives -/

/-- A piece `count` times more behind an end. -/
def further (piece : Layout Bool) : Nat → Bool → Layout Bool
  | 0, endsInFork => return endsInFork
  | count + 1, endsInFork => do
    let next ← piece
    link endsInFork
    further piece count next

/-- A piece exactly so many times. -/
def times (piece : Layout Bool) : Nat → Layout Bool
  | 0 => do
    plain
    return false
  | count + 1 => do further piece count (← piece)

/-- A piece that may follow an end up to `count` times; each time there is a way out. -/
def optional (piece : Layout Bool) : Nat → Bool → Layout Bool
  | 0, endsInFork => return endsInFork
  | count + 1, endsInFork => do
    plain
    let next ← piece
    link endsInFork
    charge (.branches 2)
    optional piece count next

/-- A piece that may be left out. -/
def maybe (piece : Layout Bool) : Layout Bool := do
  plain
  let inner ← piece
  plain
  charge (.branches 2)
  link inner
  return false

/-- A piece from `min` to `max` times. -/
def between (piece : Layout Bool) (min max : Nat) : Layout Bool := do
  let first ← times piece min
  if max ≤ min then return first
  plain
  link (← optional piece (max - min) first)
  return false

/-- A piece any number of times from `min` on; `consumes` says whether each time takes at least one byte. -/
def atLeast (piece : Layout Bool) (consumes : Bool) : Nat → Layout Bool
  | 0 =>
    if consumes then do
      plain
      let inner ← piece
      charge (.branches 1)
      link inner
      return true
    else do
      let inner ← piece
      charge ⟨3, 0⟩
      link inner
      charge (.branches 4)
      return false
  | 1 => do
    let inner ← piece
    plain
    link inner
    charge (.branches 1)
    return true
  | min + 2 => do
    let before ← times piece (min + 1)
    let inner ← piece
    plain
    link before
    link inner
    charge (.branches 1)
    return true

/-- Alternatives behind a fork, which come together again; a single one needs no fork. -/
def fork : List (Layout Bool) → Layout Bool
  | [] => do
    plain
    return false
  | [piece] => piece
  | first :: second :: rest => do
    let a ← first
    let b ← second
    charge ⟨2, 8⟩
    link a
    link b
    rest.forM fun piece => do
      let inner ← piece
      charge (.branches 1)
      link inner
    return false

end Layout

end SampleRecorder.Regex
