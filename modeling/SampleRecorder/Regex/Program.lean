import SampleRecorder.Regex.Node

/-!
# Compiled patterns

A pattern tree as a list of instructions for a machine that prefers the first of two ways.  A loop whose body may
match the empty text is compiled as an optional loop that runs at least once, so that an empty round is preferred
where the pattern says so.
-/

namespace SampleRecorder.Regex

open SampleRecorder.Text (CodeSet)

/-- One instruction; numbers are positions in the program. -/
inductive Inst where
  | char (c : Char) (next : Nat)
  | set (s : CodeSet) (next : Nat)
  | look (l : Look) (next : Nat)
  | save (slot : Nat) (next : Nat)
  | split (first second : Nat)
  | done

namespace Inst

/-- The choice between going on inside and going on behind. -/
def choose (greedy : Bool) (inside behind : Nat) : Inst :=
  if greedy then split inside behind else split behind inside

end Inst

/-- A program under construction: its entry and its instructions. -/
structure Code where
  entry : Nat
  insts : Array Inst

namespace Code

/-- The code with one more instruction in front. -/
def push (c : Code) (i : Inst) : Code :=
  ⟨c.insts.size, c.insts.push i⟩

/-- `n` copies of a piece of code, one leading to the next. -/
def copies (emit : Code → Code) : Nat → Code → Code
  | 0, c => c
  | n + 1, c => copies emit n (emit c)

/-- `n` nested optional copies of a piece of code; each may be left for `behind`. -/
def optional (emit : Code → Code) (greedy : Bool) (behind : Nat) : Nat → Code → Code
  | 0, c => c
  | n + 1, c =>
    let body := emit c
    optional emit greedy behind n (body.push (.choose greedy body.entry behind))

/-- A loop that runs at least once and is left for the code's entry. -/
def loop (emit : Code → Code) (greedy : Bool) (c : Code) : Code :=
  let turn := c.insts.size
  let body := emit ⟨turn, c.insts.push .done⟩
  ⟨body.entry, body.insts.set! turn (.choose greedy body.entry c.entry)⟩

/-- A loop that may be skipped and whose body takes at least one character. -/
def skippable (emit : Code → Code) (greedy : Bool) (c : Code) : Code :=
  let turn := c.insts.size
  let body := emit ⟨turn, c.insts.push .done⟩
  ⟨turn, body.insts.set! turn (.choose greedy body.entry c.entry)⟩

end Code

/-- Puts the code of a pattern in front of a given continuation. -/
def Node.emit : Node → Code → Code
  | .empty, c => c
  | .literal cs, c => cs.foldr (fun x c => c.push (.char x c.entry)) c
  | .set s, c => c.push (.set s c.entry)
  | .look l, c => c.push (.look l c.entry)
  | .group index body, c =>
    let close := c.push (.save (2 * index + 1) c.entry)
    let inner := body.emit close
    inner.push (.save (2 * index) inner.entry)
  | .seq a b, c => a.emit (b.emit c)
  | .alt a b, c =>
    let second := b.emit c
    let first := a.emit ⟨c.entry, second.insts⟩
    first.push (.split first.entry second.entry)
  | .star 0 greedy body, c =>
    if body.least?.any (0 < ·) then Code.skippable body.emit greedy c
    else
      let inner := Code.loop body.emit greedy c
      inner.push (.choose greedy inner.entry c.entry)
  | .star (min + 1) greedy body, c => Code.copies body.emit min (Code.loop body.emit greedy c)
  | .bounded min max greedy body, c =>
    Code.copies body.emit min (Code.optional body.emit greedy c.entry (max - min) c)

/-- A pattern ready to be run. -/
structure Program where
  entry : Nat
  insts : Array Inst
  slots : Nat

/-- The program of a whole pattern, with the bounds of the match as group 0. -/
def Program.ofNode (n : Node) : Program :=
  let code := (Node.group 0 n).emit ⟨0, #[.done]⟩
  ⟨code.entry, code.insts, 2 * n.groupCount⟩

end SampleRecorder.Regex
