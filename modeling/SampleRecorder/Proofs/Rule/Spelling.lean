import SampleRecorder.Proofs.Rule.Readers

/-!
# Spelling out conditions

The plain way to write a condition, with single blanks and single quotes.  The key fact: whatever the quoted text
holds, quotes, signs, keywords and white space included, the condition is read as it was meant (`Clause.ofText_spelled`).
-/

namespace SampleRecorder.Rule

open Text (Stops isBlank isWord)
open Condition

/-- A condition before it is written down. -/
inductive Clause where
  | compare (field : String) (relation : Relation) (text : String)
  | contains (text : String)
  | fits (pattern : String) (flags : List Char)
  | exists (field : String)
  | equals (field literal : String)
  | startsWith (text : String)
  | endsWith (text : String)
  | truth (field : String) (expected : Bool)
  deriving DecidableEq, Repr

/-- How a truth value is written. -/
def truthWord (b : Bool) : String :=
  if b then "true" else "false"

namespace Clause

/-! ### Writing: subject, verb and operand -/

def subject : Clause → String
  | compare field _ _ | equals field _ | truth field _ => field
  | contains _ | startsWith _ | endsWith _ => "line"
  | fits _ _ => "regex"
  | .exists _ => "field"

def verb : Clause → String
  | compare _ relation _ => relation.sign
  | contains _ => "contains"
  | fits _ _ => "matches"
  | .exists _ => "exists"
  | equals _ _ => "equals"
  | startsWith _ => "startsWith"
  | endsWith _ => "endsWith"
  | truth _ _ => "is"

def operand : Clause → String
  | compare _ _ text | contains text | equals _ text | startsWith text | endsWith text => "'" ++ text ++ "'"
  | fits pattern flags => "/" ++ pattern ++ "/" ++ String.ofList flags
  | .exists field => field
  | truth _ expected => truthWord expected

def text (c : Clause) : String :=
  c.subject ++ " " ++ c.verb ++ " " ++ c.operand

/-! ### Meaning -/

/-- What flags in lower case turn on. -/
def effect (flags : List Char) : Regex.Flags where
  ignoreCase := 'i' ∈ flags
  multiLine := 'm' ∈ flags
  dotAll := 's' ∈ flags

/-- Names are words, texts stay on one line and are empty in comparisons only, and patterns are valid. -/
def WellFormed : Clause → Prop
  | compare field _ text => field.toList ∈ runOf isWord ∧ '\n' ∉ text.toList
  | contains text | startsWith text | endsWith text => text.toList ∈ line
  | fits pattern flags =>
    pattern.toList ∈ line ∧ (∀ c ∈ flags, c ∈ "gimsuy".toList) ∧ (Regex.compile? pattern (effect flags)).isOk
  | .exists field | truth field _ => field.toList ∈ runOf isWord
  | equals field literal => field.toList ∈ runOf isWord ∧ literal.toList ∈ line

def form : Clause → Form
  | compare _ _ _ => .comparison
  | contains _ => .contains
  | fits _ _ => .pattern
  | .exists _ => .existence
  | equals _ _ => .equality
  | startsWith _ => .beginning
  | endsWith _ => .ending
  | truth _ _ => .truth

/-- The condition that is meant.  The text of a comparison counts as a number when it is one. -/
def condition : Clause → Condition
  | compare field relation text => .compare field relation text (Number.finite? text.toList)
  | contains text => .contains text
  | fits pattern flags =>
    match Regex.compile? pattern (effect flags) with
    | .ok r => .fits r
    | .error fault => .never (.pattern pattern fault)
  | .exists field => .exists field
  | equals field literal => .equals field literal
  | startsWith text => .startsWith text
  | endsWith text => .endsWith text
  | truth field expected => .truth field expected

end Clause

/-! ### Reading the parts -/

/-- A keyword in lower case spells itself. -/
theorem letters_self {word : String} (hw : IsKeyword word) : word.toList ∈ letters word := by
  refine List.forall₂_same.2 fun k hk => ?_
  simp [sameLetter, Text.foldPoint_smallLetter (hw.2 k hk)]

/-- A keyword between two blanks. -/
theorem mem_spaced {word : String} {b : List Char} (hb : b ∈ letters word) : [' '] ++ b ++ [' '] ∈ spaced word := by
  have hblank : [' '] ∈ runOf isBlank := ⟨by simp, by decide⟩
  exact mem_three.2 ⟨_, hblank, b, hb, _, hblank, rfl⟩

theorem quoted?_quoted {t : String} (ht : t.toList ∈ line) : quoted? ("'" ++ t ++ "'").toList = some t := by
  have hquote : ['\''] ∈ quote := ⟨'\'', by decide, rfl⟩
  refine quoted?_eq_some_iff.2 ⟨_, hquote, t.toList, ht, _, hquote, ?_, String.ofList_toList⟩
  simp

/-- Of two signs with the same beginning, the one that nothing adds to is read. -/
theorem findSome?_sign (r : Relation) {t : List Char} (ht : '=' ∉ t.head?) {k : Relation → List Char → Option Condition}
    {c : Condition} (hk : k r t = some c) :
    (Relation.all.findSome? fun q => (Text.strip? q.sign.toList (r.sign.toList ++ t)).bind (k q)) = some c := by
  have hnone : Text.strip? ['='] t = none := by
    cases t with
    | nil => rfl
    | cons d t =>
      have hd : '=' ≠ d := fun h => ht (h ▸ rfl)
      simp [Text.strip?, hd]
  cases r <;> simp [Relation.all, Relation.sign, Text.strip?, hnone, hk]

theorem unquote_quoted (t : List Char) : unquote ('\'' :: (t ++ ['\''])) = t := by
  simp [unquote, isQuote]

/-- A comparison, with any white space around its sign. -/
theorem comparison?_written {field : List Char} (hf : field ∈ runOf isWord) (r : Relation) {gap gap' operand : List Char}
    (hgap : gap ∈ 1 + runOf isBlank) (hgap' : gap' ∈ 1 + runOf isBlank) (hline : operand ∈ line)
    (hfirst : Stops isBlank operand) (hlast : Stops isBlank operand.reverse) (hsign : '=' ∉ operand.head?) :
    comparison? (field ++ (gap ++ (r.sign.toList ++ (gap' ++ operand)))) =
      some (.compare (String.ofList field) r (String.ofList (unquote operand)) (Number.finite? (unquote operand))) := by
  obtain ⟨hword, hblank⟩ := stops_of_sign r (gap' ++ operand)
  have hdrop := Text.dropWhile_run (mem_one_add_runOf.mp hgap) hblank
  have hdrop' := Text.dropWhile_run (mem_one_add_runOf.mp hgap') hfirst
  have hrest : '=' ∉ (gap' ++ operand).head? := by
    obtain rfl | ⟨hne, hall⟩ := hgap'
    · exact hsign
    · cases gap' with
      | nil => exact absurd rfl hne
      | cons c gap' =>
        have hc := hall c List.mem_cons_self
        rintro ⟨⟩
        cases hc
  rw [comparison?, word?_eq_some_iff.mpr ⟨hf, rfl, stops_of_gap hgap hword⟩, Option.bind_some]
  simp only [hdrop]
  refine findSome?_sign r hrest ?_
  rw [hdrop', oneLine?_eq_some_iff.mpr ⟨hline, rfl⟩, Option.map_some, Text.trim_of_ends hfirst hlast]

theorem comparison?_quoted {field : List Char} (hf : field ∈ runOf isWord) (r : Relation) {t : List Char}
    (ht : '\n' ∉ t) :
    comparison? (field ++ ' ' :: (r.sign.toList ++ ' ' :: '\'' :: (t ++ ['\'']))) =
      some (.compare (String.ofList field) r (String.ofList t) (Number.finite? t)) := by
  have hgap : [' '] ∈ 1 + runOf isBlank := mem_one_add_runOf.mpr (by decide)
  have hquote (s : List Char) : Stops isBlank ('\'' :: s) := Text.stops_cons.2 (by decide)
  have hline : '\'' :: (t ++ ['\'']) ∈ line := ⟨by simp, by simp [ht]⟩
  have hread := comparison?_written hf r hgap hgap hline (hquote _) (by simpa using hquote _) (by simp)
  rwa [unquote_quoted] at hread

theorem isFlag_of_mem : ∀ c ∈ "gimsuy".toList, isFlag c = true ∧ c.toLower = c ∧ isBlank c = false := by
  decide +kernel

/-- Flags in lower case turn on what they stand for, in whatever order they are read. -/
theorem flagsOf_reverse {flags : List Char} (h : ∀ c ∈ flags, c ∈ "gimsuy".toList) :
    flagsOf flags.reverse = Clause.effect flags := by
  have hlower : flags.map Char.toLower = flags := by
    rw [List.map_congr_left fun c hc => (isFlag_of_mem c (h c hc)).2.1]
    exact List.map_id flags
  simp [flagsOf, Clause.effect, List.map_reverse, hlower]

namespace Clause

/-! ### Reading back -/

variable {c : Clause}

theorem subject_mem (h : c.WellFormed) : c.subject.toList ∈ c.form.subject := by
  cases c with
  | compare | equals => exact h.1
  | truth => exact h
  | contains | startsWith | endsWith | fits | «exists» => exact letters_self (by decide)

theorem verb_mem {word : String} (h : c.form.verb? = some word) : c.verb.toList ∈ letters word := by
  have hstarts : isWordOf "startswith".toList "startsWith".toList = true := by decide +kernel
  have hends : isWordOf "endswith".toList "endsWith".toList = true := by decide +kernel
  cases c <;> cases h
  case startsWith => exact isWordOf_iff.1 hstarts
  case endsWith => exact isWordOf_iff.1 hends
  all_goals exact letters_self (by decide)

theorem text_toList (c : Clause) :
    c.text.toList = c.subject.toList ++ ([' '] ++ c.verb.toList ++ [' ']) ++ c.operand.toList := by
  simp [text]

/-- An operand neither begins nor ends with white space. -/
theorem stops_operand (h : c.WellFormed) (t : List Char) :
    Stops isBlank (c.operand.toList ++ t) ∧ Stops isBlank (c.operand.toList.reverse ++ t) := by
  have hquote : isBlank '\'' = false := by decide
  have hslash : isBlank '/' = false := by decide
  cases c with
  | compare | contains | equals | startsWith | endsWith => simp [operand, Stops, hquote]
  | fits pattern flags =>
    obtain ⟨-, hflags, -⟩ := h
    constructor
    · simp [operand, Stops, hslash]
    · cases hlast : flags.reverse with
      | nil => simp [operand, hlast, Stops, hslash]
      | cons c rest =>
        have hc : c ∈ flags := List.mem_reverse.1 (by simp [hlast])
        simp [operand, hlast, Stops, (isFlag_of_mem c (hflags c hc)).2.2]
  | «exists» field =>
    obtain ⟨hne, hword⟩ := h
    have hreverse : field.toList.reverse ∈ runOf isWord :=
      ⟨fun hnil => hne (List.reverse_eq_nil_iff.1 hnil), fun c hc => hword c (List.mem_reverse.1 hc)⟩
    exact ⟨stops_of_word ⟨hne, hword⟩, stops_of_word hreverse⟩
  | truth field expected => cases expected <;> simp [operand, truthWord, Stops] <;> decide

theorem keywords_text {first word : String} (h : c.WellFormed) (hverb : c.form.verb? = some word)
    (hsubject : c.form.subject = letters first) :
    (keyword? first.toList c.text.toList).bind (keyword? word.toList) = some c.operand.toList := by
  have hstops : Stops isBlank c.operand.toList := List.append_nil c.operand.toList ▸ (stops_operand h []).1
  exact (keywords_eq_some_iff (Form.isKeyword_of_verb? hverb)).2
    ⟨_, hsubject ▸ subject_mem h, _, mem_spaced (verb_mem hverb), (text_toList c).symm, hstops⟩

theorem subject?_text {word : String} (h : c.WellFormed) (hverb : c.form.verb? = some word)
    (hsubject : c.form.subject = runOf isWord) :
    subject? word.toList c.text.toList = some (c.subject, c.operand.toList) := by
  have hstops : Stops isBlank c.operand.toList := List.append_nil c.operand.toList ▸ (stops_operand h []).1
  exact (subject?_eq_some_iff (Form.isKeyword_of_verb? hverb)).2
    ⟨_, hsubject ▸ subject_mem h, _, mem_spaced (verb_mem hverb), (text_toList c).symm, hstops, String.ofList_toList⟩

theorem onLine?_text {word t : String} (h : c.WellFormed) (hverb : c.form.verb? = some word)
    (hsubject : c.form.subject = letters "line") (hoperand : c.operand = "'" ++ t ++ "'") (ht : t.toList ∈ line)
    (make : String → Condition) : onLine? word make c.text.toList = some (make t) := by
  rw [onLine?, keywords_text h hverb hsubject, Option.bind_some, hoperand, quoted?_quoted ht, Option.map_some]

/-- A written condition is read by the reader of its form. -/
theorem reader_text (h : c.WellFormed) : c.form.reader c.text.toList = some c.condition := by
  cases c with
  | compare field relation text =>
    have hread := comparison?_quoted h.1 relation h.2
    rw [String.ofList_toList, String.ofList_toList] at hread
    simpa [Clause.text, subject, verb, operand, form, Form.reader, condition] using hread
  | contains text => exact onLine?_text h rfl rfl rfl h .contains
  | startsWith text => exact onLine?_text h rfl rfl rfl h .startsWith
  | endsWith text => exact onLine?_text h rfl rfl rfl h .endsWith
  | fits pattern flags =>
    have hflags : ∀ c ∈ flags, c ∈ "gimsuy".toList := h.2.1
    have hread : slashed? (fits pattern flags).operand.toList = some (pattern.toList, flags.reverse) := by
      have hflags' : flags.reverse ∈ Rule.flags := fun c hc =>
        (isFlag_of_mem c (hflags c (List.mem_reverse.1 hc))).1
      exact slashed?_eq_some_iff.2 ⟨h.1, hflags', by simp [operand]⟩
    show pattern? _ = _
    rw [pattern?, keywords_text h rfl rfl, Option.bind_some, hread, Option.map_some]
    simp only [flagsOf_reverse hflags, String.ofList_toList]
    rfl
  | «exists» field =>
    have hread : word? field.toList = some (field.toList, []) :=
      word?_eq_some_iff.2 ⟨h, (List.append_nil _).symm, Text.stops_nil⟩
    show existence? _ = _
    rw [existence?, keywords_text h rfl rfl, Option.bind_some, operand, hread]
    simp only [String.ofList_toList]
    rfl
  | equals field literal =>
    show equality? _ = _
    rw [equality?, subject?_text h rfl rfl, Option.bind_some]
    simp only [operand, quoted?_quoted h.2, Option.map_some]
    rfl
  | truth field expected =>
    have htrue : isWordOf "true".toList (truthWord expected).toList = expected := by
      cases expected <;> decide +kernel
    have hfalse : isWordOf "false".toList (truthWord expected).toList = !expected := by
      cases expected <;> decide +kernel
    show truth? _ = _
    rw [truth?, subject?_text h rfl rfl, Option.bind_some]
    simp only [operand, htrue, hfalse]
    cases expected <;> rfl

theorem trim_text (h : c.WellFormed) : Text.trim c.text.toList = c.text.toList := by
  have hsubject : c.subject.toList ∈ runOf isWord := Form.runOf_of_mem_subject (subject_mem h)
  have hfirst : Stops isBlank c.text.toList := by
    simp only [text, String.toList_append, List.append_assoc]
    exact stops_of_word hsubject
  have hlast : Stops isBlank c.text.toList.reverse := by
    simp only [text, String.toList_append, List.reverse_append]
    exact (stops_operand h _).2
  exact Text.trim_of_ends hfirst hlast

/-- A condition that is written down is read as it was meant, and never refused. -/
theorem ofText_spelled (h : c.WellFormed) : ofText c.text = c.condition ∧ (ofText c.text).fault? = none := by
  have hread : ofText c.text = c.condition :=
    ofText_of_reader (f := c.form) (by rw [trim_text h, reader_text h])
  refine ⟨hread, ?_⟩
  rw [hread]
  cases c with
  | fits pattern flags =>
    obtain ⟨-, -, hvalid⟩ := h
    cases hcompile : Regex.compile? pattern (effect flags) with
    | ok r => simp [condition, hcompile, fault?]
    | error fault => simp [hcompile, Except.isOk, Except.toBool] at hvalid
  | _ => rfl

example : (compare "level" .ge "> 'high'").text = "level >= '> 'high''" := by decide

theorem ofText_spelled_nested :
    let greater := compare "level_2" .gt "' >= \"line contains 'x'\" "
    let pattern := fits "^a/b c/$" ['s', 'g', 's']
    greater.WellFormed ∧ pattern.WellFormed ∧
      (ofText greater.text = greater.condition ∧ (ofText greater.text).fault? = none) ∧
      (ofText pattern.text = pattern.condition ∧ (ofText pattern.text).fault? = none) := by
  intro greater pattern
  have hgreater : greater.WellFormed := ⟨⟨by decide, by decide +kernel⟩, by decide⟩
  have hpattern : pattern.WellFormed := ⟨⟨by decide, by decide⟩, by decide, by decide +kernel⟩
  exact ⟨hgreater, hpattern, ofText_spelled hgreater, ofText_spelled hpattern⟩

end Clause

end SampleRecorder.Rule
