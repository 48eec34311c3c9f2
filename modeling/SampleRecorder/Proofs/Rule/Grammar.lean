import Mathlib.Computability.Language
import SampleRecorder.Proofs.Text.Run
import SampleRecorder.Rule.Condition

/-!
# The grammar of conditions

The texts of each form of a condition, as a language: a subject, a verb and an operand with white space between them.
The key facts: the readers of words and keywords accept exactly the pieces described here (`word?_eq_some_iff`,
`keyword?_eq_some_iff`), and the verb can be read off a text without knowing its form (`verbText_of_mem`), so no text
has two forms (`eq_of_mem_texts`).
-/

namespace SampleRecorder.Rule

open Text (Stops isBlank isWord)
open Condition

/-! ### Pieces of text -/

def runOf (p : Char → Bool) : Language Char :=
  {s | s ≠ [] ∧ ∀ c ∈ s, p c = true}

/-- A keyword, each letter in either case. -/
def letters (word : String) : Language Char :=
  {s | List.Forall₂ (fun k c => sameLetter k c = true) word.toList s}

/-- Text that is not empty and stays on one line. -/
def line : Language Char :=
  {s | s ≠ [] ∧ '\n' ∉ s}

def quote : Language Char :=
  {s | ∃ c, isQuote c = true ∧ s = [c]}

def slash : Language Char :=
  {['/']}

def flags : Language Char :=
  {s | ∀ c ∈ s, isFlag c = true}

/-- A keyword with white space on both sides. -/
def spaced (word : String) : Language Char :=
  runOf isBlank * letters word * runOf isBlank

def signs : Language Char :=
  {s | ∃ r : Relation, s = r.sign.toList}

/-! ### The forms -/

/-- The forms of a condition. -/
inductive Form where
  | comparison
  | contains
  | pattern
  | existence
  | equality
  | beginning
  | ending
  | truth
  deriving DecidableEq, Repr

namespace Form

/-- In the order in which they are tried. -/
def all : List Form :=
  [comparison, contains, pattern, existence, equality, beginning, ending, truth]

def reader : Form → List Char → Option Condition
  | comparison => comparison?
  | contains => onLine? "contains" .contains
  | pattern => pattern?
  | existence => existence?
  | equality => equality?
  | beginning => onLine? "startswith" .startsWith
  | ending => onLine? "endswith" .endsWith
  | truth => truth?

theorem forms_eq : forms = all.map reader := rfl

/-- The first word of a form: the name of a field, or a keyword. -/
def subject : Form → Language Char
  | comparison | equality | truth => runOf isWord
  | contains | beginning | ending => letters "line"
  | pattern => letters "regex"
  | existence => letters "field"

/-- The keyword behind the subject; a comparison has a sign in its place. -/
def verb? : Form → Option String
  | comparison => none
  | contains => some "contains"
  | pattern => some "matches"
  | existence => some "exists"
  | equality => some "equals"
  | beginning => some "startswith"
  | ending => some "endswith"
  | truth => some "is"

/-- The verb of a form, with the white space that must or, around a sign, may stand around it. -/
def verb (f : Form) : Language Char :=
  match f.verb? with
  | none => (1 + runOf isBlank) * signs * (1 + runOf isBlank)
  | some word => spaced word

/-- What stands behind the verb. -/
def operand : Form → Language Char
  | comparison => line
  | contains | equality | beginning | ending => quote * line * quote
  | pattern => slash * line * slash * flags
  | existence => runOf isWord
  | truth => letters "true" + letters "false"

/-- The texts of a form. -/
def texts (f : Form) : Language Char :=
  f.subject * f.verb * f.operand

end Form

/-! ### Reading the pieces -/

theorem mem_runOf {p : Char → Bool} {s : List Char} : s ∈ runOf p ↔ s ≠ [] ∧ ∀ c ∈ s, p c = true := Iff.rfl

theorem mem_line {s : List Char} : s ∈ line ↔ s ≠ [] ∧ '\n' ∉ s := Iff.rfl

/-- A text in three parts. -/
theorem mem_three {l m n : Language Char} {s : List Char} :
    s ∈ l * m * n ↔ ∃ a ∈ l, ∃ b ∈ m, ∃ c ∈ n, a ++ b ++ c = s := by
  simp only [Language.mem_mul]
  constructor
  · rintro ⟨_, ⟨a, ha, b, hb, rfl⟩, c, hc, rfl⟩
    exact ⟨a, ha, b, hb, c, hc, rfl⟩
  · rintro ⟨a, ha, b, hb, c, hc, rfl⟩
    exact ⟨_, ⟨a, ha, b, hb, rfl⟩, c, hc, rfl⟩

/-- A run, or nothing at all. -/
theorem mem_one_add_runOf {p : Char → Bool} {s : List Char} : s ∈ 1 + runOf p ↔ ∀ c ∈ s, p c = true := by
  rw [Language.mem_add, Language.mem_one, mem_runOf]
  constructor
  · rintro (rfl | h)
    · simp
    · exact h.2
  · intro h
    by_cases hs : s = []
    · exact .inl hs
    · exact .inr ⟨hs, h⟩

theorem word?_eq_some_iff {s n r : List Char} :
    word? s = some (n, r) ↔ n ∈ runOf isWord ∧ s = n ++ r ∧ Stops isWord r := by
  have hsplit : s.takeWhile isWord ++ s.dropWhile isWord = s := List.takeWhile_append_dropWhile
  constructor
  · intro h
    unfold word? at h
    split at h
    · cases h
    · next hne =>
      cases h
      exact ⟨⟨hne, fun c hc => List.mem_takeWhile_imp hc⟩, hsplit.symm, Text.stops_dropWhile isWord s⟩
  · rintro ⟨⟨hne, hn⟩, rfl, hr⟩
    unfold word?
    rw [Text.takeWhile_run hn hr, Text.dropWhile_run hn hr]
    cases n with
    | nil => exact absurd rfl hne
    | cons c n => rfl

/-- A keyword is read with the white space behind it. -/
theorem keyword?_eq_some_iff {word s r : List Char} :
    keyword? word s = some r ↔
      ∃ a g, List.Forall₂ (fun k c => sameLetter k c = true) word a ∧ g ∈ runOf isBlank ∧ s = a ++ (g ++ r) ∧
        Stops isBlank r := by
  induction word generalizing s with
  | nil =>
    cases s with
    | nil => simp [keyword?, mem_runOf]
    | cons c s =>
      constructor
      · intro h
        unfold keyword? at h
        split at h
        · next hc =>
          cases h
          refine ⟨[], c :: s.takeWhile isBlank, .nil, ⟨by simp, ?_⟩, ?_, Text.stops_dropWhile isBlank s⟩
          · rw [List.forall_mem_cons]
            exact ⟨hc, fun d hd => List.mem_takeWhile_imp hd⟩
          · simp [List.takeWhile_append_dropWhile]
        · cases h
      · rintro ⟨a, g, ha, ⟨hne, hg⟩, hs, hr⟩
        cases ha
        cases g with
        | nil => exact absurd rfl hne
        | cons d g =>
          obtain ⟨rfl, rfl⟩ := List.cons.inj hs
          rw [List.forall_mem_cons] at hg
          rw [keyword?, if_pos hg.1]
          exact congrArg some (Text.dropWhile_run hg.2 hr)
  | cons k word ih =>
    cases s with
    | nil =>
      constructor
      · intro h
        cases h
      · rintro ⟨a, g, ha, -, hs, -⟩
        cases ha
        cases hs
    | cons c s =>
      by_cases hk : sameLetter k c = true
      · rw [keyword?, if_pos hk, ih]
        constructor
        · rintro ⟨a, g, ha, hg, rfl, hr⟩
          exact ⟨c :: a, g, .cons hk ha, hg, rfl, hr⟩
        · rintro ⟨a, g, ha, hg, hs, hr⟩
          cases ha with
          | cons hd ha =>
            obtain ⟨-, rfl⟩ := List.cons.inj hs
            exact ⟨_, g, ha, hg, rfl, hr⟩
      · rw [keyword?, if_neg hk]
        constructor
        · intro h
          cases h
        · rintro ⟨a, g, ha, hg, hs, hr⟩
          cases ha with
          | cons hd ha =>
            obtain ⟨rfl, -⟩ := List.cons.inj hs
            exact absurd hd hk

/-! ### Keywords -/

/-- A keyword is a word of small letters. -/
def IsKeyword (word : String) : Prop :=
  word ≠ "" ∧ ∀ k ∈ word.toList, k ∈ Text.smallLetters

instance (word : String) : Decidable (IsKeyword word) :=
  inferInstanceAs (Decidable (_ ∧ _))

theorem foldPoint_of_sameLetter {k c : Char} (h : sameLetter k c = true) : Text.foldPoint c.toNat = k.toNat := by
  simpa [sameLetter] using h

/-- However a keyword is written, it is a word. -/
theorem runOf_of_mem_letters {word : String} (hw : IsKeyword word) {s : List Char} (hs : s ∈ letters word) :
    s ∈ runOf isWord := by
  obtain ⟨hne, hsmall⟩ := hw
  have hforall : List.Forall₂ (fun k c => sameLetter k c = true) word.toList s := hs
  constructor
  · rintro rfl
    have hnil : word.toList = [] := List.forall₂_nil_right_iff.1 hforall
    exact hne (String.toList_eq_nil_iff.1 hnil)
  · intro c hc
    obtain ⟨i, hi, rfl⟩ := List.getElem_of_mem hc
    have hlength : word.toList.length = s.length := hforall.length_eq
    have hsame := hforall.get (by omega) hi
    exact Text.isWord_of_foldPoint (hsmall _ (List.getElem_mem _)) (foldPoint_of_sameLetter hsame)

/-- A text spells one keyword at most. -/
theorem eq_of_mem_letters {v w : String} {s : List Char} (hv : s ∈ letters v) (hw : s ∈ letters w) : v = w := by
  have hlists : ∀ {a b s : List Char}, List.Forall₂ (fun k c => sameLetter k c = true) a s →
      List.Forall₂ (fun k c => sameLetter k c = true) b s → a = b := by
    intro a b s ha hb
    induction ha generalizing b with
    | nil => exact (List.forall₂_nil_right_iff.1 hb).symm
    | cons hk _ ih =>
      cases hb with
      | cons hk' hb =>
        have hsame := (foldPoint_of_sameLetter hk).symm.trans (foldPoint_of_sameLetter hk')
        rw [Char.toNat_inj.1 hsame, ih hb]
  exact String.toList_inj.1 (hlists hv hw)

theorem stops_of_word {a t : List Char} (ha : a ∈ runOf isWord) : Stops isBlank (a ++ t) := by
  obtain ⟨hne, hword⟩ := ha
  cases a with
  | nil => exact absurd rfl hne
  | cons c a =>
    rw [List.cons_append, Text.stops_cons]
    by_contra hc
    have hblank := Text.isWord_of_isBlank (Bool.not_eq_false _ ▸ hc)
    rw [hword c (by simp)] at hblank
    cases hblank

theorem stops_of_blank {g t : List Char} (hg : g ∈ runOf isBlank) : Stops isWord (g ++ t) := by
  obtain ⟨hne, hblank⟩ := hg
  cases g with
  | nil => exact absurd rfl hne
  | cons c g => exact Text.stops_cons.2 (Text.isWord_of_isBlank (hblank c (by simp)))

theorem stops_of_gap {g t : List Char} (hg : g ∈ 1 + runOf isBlank) (ht : Stops isWord t) : Stops isWord (g ++ t) := by
  obtain rfl | hg := hg
  · exact ht
  · exact stops_of_blank hg

theorem stops_of_sign (r : Relation) (t : List Char) :
    Stops isWord (r.sign.toList ++ t) ∧ Stops isBlank (r.sign.toList ++ t) := by
  cases r <;> exact ⟨Text.stops_cons.2 (by decide), Text.stops_cons.2 (by decide)⟩

/-! ### A text has one form -/

namespace Form

theorem isKeyword_of_verb? {f : Form} {word : String} (h : f.verb? = some word) : IsKeyword word := by
  cases f <;> cases h <;> decide

theorem verb?_injective {f g : Form} (h : f.verb? = g.verb?) : f = g := by
  revert h
  cases f <;> cases g <;> decide

/-- Every subject is a word. -/
theorem runOf_of_mem_subject {f : Form} {s : List Char} (h : s ∈ f.subject) : s ∈ runOf isWord := by
  cases f with
  | comparison | equality | truth => exact h
  | contains | pattern | existence | beginning | ending => exact runOf_of_mem_letters (by decide) h

/-- The text of a verb: what stands between the subject and the operand. -/
def verbText (s : List Char) : List Char :=
  ((s.dropWhile isWord).dropWhile isBlank).takeWhile isWord

theorem verbText_of_mem_comparison {s : List Char} (h : s ∈ comparison.texts) : verbText s = [] := by
  obtain ⟨a, ha, v, hv, o, -, rfl⟩ := mem_three.1 h
  obtain ⟨g, hg, _, ⟨r, rfl⟩, g', -, rfl⟩ := mem_three.1 hv
  obtain ⟨hword, hblank⟩ := stops_of_sign r (g' ++ o)
  simp only [List.append_assoc]
  rw [verbText, Text.dropWhile_run (runOf_of_mem_subject ha).2 (stops_of_gap hg hword),
    Text.dropWhile_run (mem_one_add_runOf.1 hg) hblank, Text.takeWhile_of_stops hword]

theorem verb_eq {f : Form} {word : String} (h : f.verb? = some word) : f.verb = spaced word := by
  simp only [verb, h]

theorem verbText_of_mem {f : Form} {word : String} (hf : f.verb? = some word) {s : List Char} (h : s ∈ f.texts) :
    verbText s ∈ letters word := by
  obtain ⟨a, ha, v, hv, o, -, rfl⟩ := mem_three.1 h
  obtain ⟨g, hg, b, hb, g', hg', rfl⟩ := mem_three.1 (verb_eq hf ▸ hv)
  have hbword : b ∈ runOf isWord := runOf_of_mem_letters (isKeyword_of_verb? hf) hb
  simp only [List.append_assoc]
  rw [verbText, Text.dropWhile_run (runOf_of_mem_subject ha).2 (stops_of_blank hg),
    Text.dropWhile_run hg.2 (stops_of_word hbword), Text.takeWhile_run hbword.2 (stops_of_blank hg')]
  exact hb

/-- No text has two forms. -/
theorem eq_of_mem_texts {f g : Form} {s : List Char} (hf : s ∈ f.texts) (hg : s ∈ g.texts) : f = g := by
  have comparison_of_none {f : Form} (h : f.verb? = none) : f = comparison := verb?_injective h
  have hempty {word : String} (hw : IsKeyword word) : [] ∉ letters word := fun h =>
    (runOf_of_mem_letters hw h).1 rfl
  -- A verb is never empty, so an empty one gives a comparison away, and any other one spells its keyword.
  refine verb?_injective ?_
  cases hv : f.verb? with
  | none =>
    have hnil : verbText s = [] := verbText_of_mem_comparison (comparison_of_none hv ▸ hf)
    cases hw : g.verb? with
    | none => rfl
    | some w => exact absurd (hnil ▸ verbText_of_mem hw hg) (hempty (isKeyword_of_verb? hw))
  | some v =>
    have hverb : verbText s ∈ letters v := verbText_of_mem hv hf
    cases hw : g.verb? with
    | none =>
      have hnil : verbText s = [] := verbText_of_mem_comparison (comparison_of_none hw ▸ hg)
      exact absurd (hnil ▸ hverb) (hempty (isKeyword_of_verb? hv))
    | some w => exact congrArg some (eq_of_mem_letters hverb (verbText_of_mem hw hg))

end Form

end SampleRecorder.Rule
