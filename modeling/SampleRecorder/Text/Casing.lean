import SampleRecorder.Text.Derived
import SampleRecorder.Text.Later

/-!
# Upper case, lower case and case folding

`toUpper` and `toLower` map whole texts by the seventeenth edition of the Unicode database: a letter may become
several, and a capital sigma at the end of a word becomes its final form.  Patterns compare characters by the simple
case folding of the sixteenth edition: `foldClass` lists the characters that differ from a given one by case alone,
and `CodeSet.foldCase` closes a set under this relation.
-/

namespace SampleRecorder.Text

/-- The image of `n` under the first run that covers it, and `n` itself when none does. -/
def shifted (table : List Shift) (n : Nat) : Nat :=
  match table.find? (·.covers n) with
  | some run => run.apply n
  | none => n

/-- The uppercase form of one character. -/
def upper (c : Char) : List Char :=
  if c.toNat < 0x80 then [c.toUpper]
  else
    match CaseTable.upperSpecial.lookup c.toNat with
    | some image => image.map Char.ofNat
    | none => [Char.ofNat (shifted Later.upper (shifted CaseTable.upper c.toNat))]

/-- The lowercase form of one character outside any context; only the dotted capital `İ` has two letters. -/
def lower (c : Char) : List Char :=
  if c.toNat < 0x80 then [c.toLower]
  else if c = '\u0130' then ['i', '\u0307']
  else [Char.ofNat (shifted Later.lower (shifted CaseTable.lower c.toNat))]

/-- The uppercase form of a text. -/
def toUpper (s : List Char) : List Char :=
  s.flatMap upper

/-- Whether a character has case. -/
def isCased (c : Char) : Bool :=
  Derived.cased.contains c != Later.cased.contains c

/-- Whether a character is passed over where the case of its neighbours is asked for. -/
def isCaseIgnorable (c : Char) : Bool :=
  Derived.caseIgnorable.contains c != Later.caseIgnorable.contains c

/-- Whether the first character that is not ignorable for case is a cased one. -/
def startsCased (s : List Char) : Bool :=
  match s.dropWhile isCaseIgnorable with
  | [] => false
  | c :: _ => isCased c

/-- The lowercase form of each character; `before` is the text already passed, nearest character first. -/
def lowerParts (before : List Char) : List Char → List (List Char)
  | [] => []
  | c :: rest =>
    let image :=
      if c = 'Σ' then [if startsCased before && !startsCased rest then 'ς' else 'σ'] else lower c
    image :: lowerParts (c :: before) rest

/-- The lowercase form of a text. -/
def toLower (s : List Char) : List Char :=
  if s.all (·.toNat < 0x80) then s.map Char.toLower else (lowerParts [] s).flatten

/-- The simple case folding of a code point. -/
def foldPoint (n : Nat) : Nat :=
  shifted CaseTable.fold n

/-- The code points that a run of foldings takes to `target`. -/
def Shift.sources (s : Shift) (target : Nat) : List Nat :=
  let n := (target : Int) - s.distance
  if 0 ≤ n && s.covers n.toNat then [n.toNat] else []

/-- All characters with the same simple case folding as `c`, the folding itself first. -/
def foldClass (c : Char) : List Char :=
  let target := foldPoint c.toNat
  (target :: CaseTable.fold.flatMap (·.sources target)).map Char.ofNat

/-- All foldings, each as a character and what it folds to, in ascending order of the character. -/
def foldings : List (Nat × Nat) :=
  CaseTable.fold.flatMap fun run => run.points.map fun n => (n, run.apply n)

/-- All foldings in ascending order of what they fold to. -/
def foldingsByTarget : List (Nat × Nat) :=
  foldings.mergeSort fun a b => a.2 ≤ b.2

/-- The set with all characters that differ from a member by case alone. -/
def CodeSet.foldCase (s : CodeSet) : CodeSet :=
  let closed := s.union (.ofPoints ((s.sift Prod.fst foldings).map Prod.snd))
  closed.union (.ofPoints ((closed.sift Prod.snd foldingsByTarget).map Prod.fst))

/-- The set with the other case of each ASCII letter in it. -/
def CodeSet.foldAscii (s : CodeSet) : CodeSet :=
  let capitals := (List.range 26).map (0x41 + ·)
  .unions [s, .ofPoints ((capitals.filter s.has).map (· + 32)), .ofPoints (capitals.filter fun n => s.has (n + 32))]

end SampleRecorder.Text
