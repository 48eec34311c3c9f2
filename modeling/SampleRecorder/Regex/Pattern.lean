import SampleRecorder.Regex.Bracket

/-!
# Reading patterns

The reader keeps the open groups on a stack and takes one step per construct, so that it is a plain loop over the
pattern text.  A pattern that is malformed, or that nests deeper than `nestLimit`, has no reading.
-/

namespace SampleRecorder.Regex

/-- Constructs may nest this deep. -/
def nestLimit : Nat := 250

/-- The greatest number that a counted repetition may name. -/
def countLimit : Nat := 4294967295

/-- A pattern that was read, with the depth of its nesting. -/
structure Piece where
  node : Node
  depth : Nat

/-- An element of a sequence; a change of flags counts as one that matches nothing. -/
inductive Item where
  | flags
  | piece (p : Piece)

/-- The depth of an element. -/
def Item.depth : Item → Nat
  | .flags => 0
  | .piece p => p.depth

/-- The pattern of an element. -/
def Item.node : Item → Node
  | .flags => .empty
  | .piece p => p.node

/-- A group that is being read: its finished alternatives and the current one, each last first. -/
structure Level where
  branches : List Piece := []
  items : List Item := []
  group : Option Nat := none
  outer : Flags := {}

namespace Level

/-- The current alternative as one pattern. -/
def sequence (l : Level) : Piece :=
  match l.items with
  | [] => ⟨.empty, 0⟩
  | [a] => ⟨a.node, a.depth⟩
  | items => ⟨.sequence (items.reverse.map Item.node), 1 + (items.map Item.depth).foldl max 0⟩

/-- All alternatives as one pattern. -/
def choice (l : Level) : Piece :=
  match l.branches with
  | [] => l.sequence
  | branches =>
    let all := branches.reverse ++ [l.sequence]
    ⟨.choice (all.map (·.node)), 1 + (all.map (·.depth)).foldl max 0⟩

/-- The level with one more element in its current alternative. -/
def push (l : Level) (p : Piece) : Level :=
  { l with items := .piece p :: l.items }

/-- The level with its current alternative finished. -/
def branch (l : Level) : Level :=
  { l with branches := l.sequence :: l.branches, items := [] }

end Level

/-- How far a pattern has been read. -/
structure Reader where
  rest : List Char
  flags : Flags := {}
  level : Level := {}
  outer : List Level := []
  /-- The names of the groups so far, last first; group 0 is the whole match. -/
  names : List (Option String) := [none]

namespace Reader

/-- Reads the letters of a change of flags up to `:` or `)`. -/
def flags? (now : Flags) (seen : List Char) (on dangling : Bool) : List Char → Option (Flags × Char × List Char)
  | [] => none
  | c :: s =>
    if c = ':' || c = ')' then
      if dangling || (c = ')' && seen.isEmpty) then none else some (now, c, s)
    else if seen.contains c then none
    else if c = '-' then flags? now (c :: seen) false true s
    else (now.set? c on).bind fun f => flags? f (c :: seen) on false s

/-- Whether a group name may begin with the character. -/
def startsName (c : Char) : Bool :=
  c == '_' || Text.isLetter c

/-- Whether a group name may go on with the character. -/
def continuesName (c : Char) : Bool :=
  c == '_' || c == '.' || c == '[' || c == ']' || Text.isLetterOrNumber c

/-- The name of a group up to `>`. -/
def groupName? (s : List Char) : Option (String × List Char) :=
  match s.span (· != '>') with
  | (c :: cs, _ :: rest) =>
    if startsName c && cs.all continuesName then some (String.ofList (c :: cs), rest) else none
  | _ => none

/-- The reader inside a group that has just been opened. -/
def enter (r : Reader) (group : Option Nat) (inner : Flags) (rest : List Char) : Reader :=
  { r with rest, flags := inner, level := { group, outer := r.flags }, outer := r.level :: r.outer }

/-- Reads what follows an opening parenthesis. -/
def open? (r : Reader) (s : List Char) : Option Reader :=
  let number := r.names.length
  let named (s : List Char) : Option Reader :=
    (groupName? s).bind fun (name, rest) =>
      if r.names.contains (some name) then none
      else some { r.enter (some number) r.flags rest with names := some name :: r.names }
  match r.flags.skip s with
  | '?' :: 'P' :: '<' :: s => named s
  | '?' :: '<' :: s =>
    match s with
    | '=' :: _ | '!' :: _ => none
    | s => named s
  | '?' :: s =>
    (flags? r.flags [] true false s).map fun (f, close, rest) =>
      if close = ')' then { r with rest, flags := f, level := { r.level with items := .flags :: r.level.items } }
      else r.enter none f rest
  | s => some { r.enter (some number) r.flags s with names := none :: r.names }

/-- Closes the innermost group. -/
def close? (r : Reader) (s : List Char) : Option Reader :=
  match r.outer with
  | [] => none
  | parent :: outer =>
    let inner := r.level.choice
    let node := match r.level.group with | some n => Node.group n inner.node | none => inner.node
    some { r with rest := s, flags := r.level.outer, level := parent.push ⟨node, 1 + inner.depth⟩, outer }

/-- Puts a repetition around the last element. -/
def repeat? (r : Reader) (min : Nat) (max : Option Nat) (greedy : Bool) (s : List Char) : Option Reader :=
  match r.level.items with
  | .piece p :: items =>
    let node := Node.repeated min max (greedy != r.flags.swapGreed) p.node
    some { r with rest := s, level := { r.level with items := .piece ⟨node, 1 + p.depth⟩ :: items } }
  | _ => none

/-- A decimal number, with white space around it. -/
def decimal? (f : Flags) (s : List Char) : Option (Nat × List Char) :=
  let s := s.dropWhile Text.isBlank
  let rec digits : Nat → Nat → Nat → List Char → Nat × Nat × List Char
    | 0, count, value, s => (count, value, s)
    | fuel + 1, count, value, s =>
      match s with
      | c :: r =>
        if c.isDigit then digits fuel (count + 1) (10 * value + (c.toNat - 48)) (f.skip r) else (count, value, s)
      | [] => (count, value, s)
  let (count, value, rest) := digits s.length 0 0 s
  if count = 0 || countLimit < value then none else some (value, f.skip (rest.dropWhile Text.isBlank))

/-- Reads a counted repetition after its opening brace. -/
def counted? (r : Reader) (s : List Char) : Option Reader :=
  let finish (min : Nat) (max : Option Nat) (s : List Char) : Option Reader :=
    match s with
    | '\x7d' :: rest =>
      let rest := r.flags.skip rest
      if (max.getD min) < min then none
      else
        match rest with
        | '?' :: rest => r.repeat? min max false rest
        | rest => r.repeat? min max true rest
    | _ => none
  (decimal? r.flags (r.flags.skip s)).bind fun (min, rest) =>
    match rest with
    | ',' :: rest =>
      match r.flags.skip rest with
      | '\x7d' :: rest => finish min none ('\x7d' :: rest)
      | rest => (decimal? r.flags rest).bind fun (max, rest) => finish min (some max) rest
    | rest => finish min (some min) rest

/-- Reads a repetition sign, lazy when a question mark follows at once. -/
def sign? (r : Reader) (min : Nat) (max : Option Nat) (s : List Char) : Option Reader :=
  match s with
  | '?' :: rest => r.repeat? min max false rest
  | rest => r.repeat? min max true rest

/-- The reader after one more pattern of depth zero. -/
def leaf (r : Reader) (node : Node) (rest : List Char) : Reader :=
  { r with rest, level := r.level.push ⟨node, 0⟩ }

/-- Reads one construct from a text that is not empty. -/
def step? (r : Reader) (c : Char) (s : List Char) : Option Reader :=
  match c with
  | '(' => r.open? s
  | ')' => r.close? s
  | '|' => some { r with rest := s, level := r.level.branch }
  | '[' => (Bracket.read? r.flags s).map fun (p, rest) =>
      { r with rest, level := r.level.push ⟨.ofSet p.set, p.depth⟩ }
  | '?' => r.sign? 0 (some 1) s
  | '*' => r.sign? 0 none s
  | '+' => r.sign? 1 none s
  | '\x7b' => r.counted? s
  | '.' => r.flags.dot?.map fun node => r.leaf node s
  | '^' => some (r.leaf (.look r.flags.startLook) s)
  | '$' => some (r.leaf (.look r.flags.endLook) s)
  | '\\' =>
    (Escape.read? r.flags s).bind fun (e, rest) =>
      match e with
      | .char c => some (r.leaf (r.flags.literal c) rest)
      | .set set => some (r.leaf (.ofSet set) rest)
      | .look l => some (r.leaf (.look l) rest)
  | c => some (r.leaf (r.flags.literal c) s)

/-- Reads constructs to the end of the text; each takes at least one of the `fuel` characters. -/
def run? : Nat → Reader → Option Reader
  | 0, r => some r
  | fuel + 1, r =>
    match r.flags.skip r.rest with
    | [] => some { r with rest := [] }
    | c :: s => (r.step? c s).bind (run? fuel)

end Reader

/-- The tree of a pattern that is read under the given flags, and the names of its groups, group 0 first. -/
def parse? (flags : Flags) (pattern : List Char) : Option (Node × List (Option String)) :=
  (Reader.run? (pattern.length + 1) { rest := pattern, flags }).bind fun r =>
    let whole := r.level.choice
    if r.outer.isEmpty && whole.depth ≤ nestLimit then some (whole.node, r.names.reverse) else none

end SampleRecorder.Regex
