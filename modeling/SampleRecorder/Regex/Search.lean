import SampleRecorder.Regex.Program

/-!
# Running patterns

The machine keeps one thread per instruction, in order of preference, and moves all of them over the text one
character at a time.  A thread that finishes ends all threads that are less preferred, so the match that is found
begins as far left as possible and is the preferred one of those.
-/

namespace SampleRecorder.Regex

/-- Whether a word character stands at the given side of a position. -/
def isWordAt (ascii : Bool) (c : Option Char) : Bool :=
  match c with
  | none => false
  | some c => Text.isWord c && (!ascii || c.toNat < 0x80)

/-- Whether a position between two characters, or at an end of the text, fulfils a condition. -/
def Look.holds (l : Look) (before after : Option Char) : Bool :=
  match l with
  | .textStart => before.isNone
  | .textEnd => after.isNone
  | .lineStart => before.isNone || before == some '\n'
  | .lineEnd => after.isNone || after == some '\n'
  | .carriageLineStart =>
    before.isNone || before == some '\n' || (before == some '\r' && after != some '\n')
  | .carriageLineEnd =>
    after.isNone || after == some '\r' || (after == some '\n' && before != some '\r')
  | .boundary ascii negated => (isWordAt ascii before != isWordAt ascii after) != negated
  | .wordStart ascii => !isWordAt ascii before && isWordAt ascii after
  | .wordEnd ascii => isWordAt ascii before && !isWordAt ascii after
  | .halfStart ascii => !isWordAt ascii before
  | .halfEnd ascii => !isWordAt ascii after

/-- The places in the text that a thread has saved. -/
abbrev Slots := Array (Option Nat)

/-- A thread that waits at an instruction for a character, or that has finished. -/
structure Thread where
  state : Nat
  slots : Slots

/-- The threads of one position, last first, and the instructions that have been visited there. -/
structure Front where
  threads : List Thread
  visited : Array Bool

/-- A position in the text: its number and its two neighbours. -/
structure Place where
  index : Nat
  before : Option Char
  after : Option Char

/-- Follows the instructions that take no character, preferred ways first.  Every turn takes a thread from `waiting`
or visits an instruction for the first time, so twice the size of the program bounds their number. -/
def Program.follow (p : Program) (place : Place) : Nat → List Thread → Front → Front
  | 0, _, f => f
  | _, [], f => f
  | fuel + 1, t :: waiting, f =>
    if f.visited.getD t.state true then p.follow place fuel waiting f
    else
      let f := { f with visited := f.visited.set! t.state true }
      match p.insts[t.state]? with
      | none => p.follow place fuel waiting f
      | some (.look l next) =>
        if l.holds place.before place.after then p.follow place fuel ({ t with state := next } :: waiting) f
        else p.follow place fuel waiting f
      | some (.save slot next) =>
        p.follow place fuel (⟨next, t.slots.set! slot (some place.index)⟩ :: waiting) f
      | some (.split first second) =>
        p.follow place fuel ({ t with state := first } :: { t with state := second } :: waiting) f
      | some _ => p.follow place fuel waiting { f with threads := t :: f.threads }

/-- Adds a thread with all that it leads to without a character. -/
def Program.add (p : Program) (place : Place) (t : Thread) (f : Front) : Front :=
  p.follow place (2 * p.insts.size + 2) [t] f

/-- No threads, and nothing visited. -/
def Program.noThreads (p : Program) : Front :=
  ⟨[], Array.replicate p.insts.size false⟩

/-- Moves threads, preferred ones first, over the character `c`, up to the first one that has finished. -/
def Program.move (p : Program) (c : Option Char) (next : Place) : List Thread → Front → Front × Option Slots
  | [], f => (f, none)
  | t :: rest, f =>
    match p.insts[t.state]? with
    | some (.char x target) =>
      p.move c next rest (if c == some x then p.add next { t with state := target } f else f)
    | some (.set s target) =>
      p.move c next rest (if c.any s.contains then p.add next { t with state := target } f else f)
    | some .done => (f, some t.slots)
    | _ => p.move c next rest f

/-- Runs over the rest of the text; a new thread starts at each position as long as nothing has been found. -/
def Program.run (p : Program) (index : Nat) (before : Option Char) (f : Front) (found : Option Slots) :
    List Char → Option Slots
  | [] =>
    let f := if found.isNone then p.add ⟨index, before, none⟩ ⟨p.entry, Array.replicate p.slots none⟩ f else f
    let (_, best) := p.move none ⟨index, before, none⟩ f.threads.reverse p.noThreads
    best <|> found
  | c :: rest =>
    let f :=
      if found.isNone then p.add ⟨index, before, some c⟩ ⟨p.entry, Array.replicate p.slots none⟩ f else f
    let (next, best) := p.move (some c) ⟨index + 1, some c, rest.head?⟩ f.threads.reverse p.noThreads
    let found := best <|> found
    if found.isSome && next.threads.isEmpty then found
    else p.run (index + 1) (some c) next found rest

/-- The places that the preferred leftmost match saves. -/
def Program.search (p : Program) (text : List Char) : Option Slots :=
  p.run 0 none p.noThreads none text

end SampleRecorder.Regex
