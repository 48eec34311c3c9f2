import Mathlib.Data.List.TakeWhile
import SampleRecorder.Proofs.Text.CodeSet
import SampleRecorder.Text.Casing
import SampleRecorder.Text.Class

/-!
# Runs of characters

Reading a run of characters of one class, and cutting off the white space around a text.  The key facts: a run is read
whole when what follows does not continue it (`takeWhile_run`, `dropWhile_run`), a text that neither begins nor ends
with white space is its own trimming (`trim_of_ends`), white space does not belong to words (`isWord_of_isBlank`), and
whatever differs from a small letter by case alone does (`isWord_of_foldPoint`).
-/

namespace SampleRecorder.Text

/-- What is said of each character in a text is decided by going through the text, and not through all characters. -/
instance decidableForallMem {p : Char → Prop} [DecidablePred p] (s : List Char) : Decidable (∀ c ∈ s, p c) :=
  List.decidableBAll p s

/-! ### Runs -/

/-- A text does not begin with a character of a class. -/
def Stops (p : Char → Bool) (s : List Char) : Prop :=
  ∀ c ∈ s.head?, p c = false

section Run

variable {p : Char → Bool} {s : List Char}

theorem stops_nil : Stops p [] := by
  simp [Stops]

theorem stops_cons {c : Char} : Stops p (c :: s) ↔ p c = false := by
  simp [Stops]

theorem stops_dropWhile (p : Char → Bool) (s : List Char) : Stops p (s.dropWhile p) := by
  intro c hc
  have h := List.head?_dropWhile_not p s
  rw [hc] at h
  simpa using h

theorem dropWhile_of_stops (hs : Stops p s) : s.dropWhile p = s := by
  cases s with
  | nil => rfl
  | cons c s => exact List.dropWhile_cons_of_neg (by simp [stops_cons.1 hs])

theorem takeWhile_of_stops (hs : Stops p s) : s.takeWhile p = [] := by
  cases s with
  | nil => rfl
  | cons c s => exact List.takeWhile_cons_of_neg (by simp [stops_cons.1 hs])

/-- A run is dropped, and nothing of what follows it. -/
theorem dropWhile_run {run : List Char} (hrun : ∀ c ∈ run, p c = true) (hs : Stops p s) :
    (run ++ s).dropWhile p = s := by
  rw [List.dropWhile_append_of_pos hrun, dropWhile_of_stops hs]

/-- A run is taken whole, and nothing of what follows it. -/
theorem takeWhile_run {run : List Char} (hrun : ∀ c ∈ run, p c = true) (hs : Stops p s) :
    (run ++ s).takeWhile p = run := by
  rw [List.takeWhile_append_of_pos hrun, takeWhile_of_stops hs, List.append_nil]

/-- A text that ends otherwise is not used up by dropping. -/
theorem dropWhile_ne_nil (hs : s ≠ []) (hlast : ∀ c ∈ s.getLast?, p c = false) : s.dropWhile p ≠ [] := by
  intro h
  have hall : ∀ c ∈ s, p c = true := List.dropWhile_eq_nil_iff.1 h
  have hl : s.getLast hs ∈ s.getLast? := by simp [List.getLast?_eq_some_getLast hs]
  have := hlast _ hl
  rw [hall _ (List.getLast_mem hs)] at this
  cases this

end Run

/-! ### White space around a text -/

/-- A text that neither begins nor ends with white space stays as it is. -/
theorem trim_of_ends {s : List Char} (hfirst : Stops isBlank s) (hlast : Stops isBlank s.reverse) : trim s = s := by
  rw [trim, dropWhile_of_stops hfirst, dropWhile_of_stops hlast, List.reverse_reverse]

theorem isBlank_of_mem_getLast?_trim (s : List Char) : ∀ c ∈ (trim s).getLast?, isBlank c = false := by
  rw [trim, List.getLast?_reverse]
  exact stops_dropWhile isBlank _

/-! ### Classes -/

/-- The white space characters, in ascending order. -/
def blankPoints : List Nat :=
  List.range' 9 5 ++ [0x20, 0x85, 0xA0, 0x1680] ++ List.range' 0x2000 11 ++ [0x2028, 0x2029, 0x202F, 0x205F, 0x3000]

theorem mem_blankPoints {c : Char} (h : isBlank c = true) : c.toNat ∈ blankPoints := by
  simp only [isBlank, Bool.or_eq_true, Bool.and_eq_true, decide_eq_true_eq, beq_iff_eq] at h
  simp only [blankPoints, List.mem_append, List.mem_range'_1, List.mem_cons, List.not_mem_nil, or_false]
  rcases h with (((((((((h | h) | h) | h) | h) | h) | h) | h) | h) | h) | h <;> simp [h, Nat.lt_succ_of_le]

theorem isWord_of_not_ascii {c : Char} (h : ¬c.toNat < 0x80) :
    isWord c = Derived.wordSets.any (·.has c.toNat) := by
  rw [isWord, if_neg h]
  exact Derived.isUnion_word.has c.toNat

/-- None of the listed sets holds white space. -/
theorem has_listed_of_isBlank {c : Char} (h : isBlank c = true) :
    ∀ s ∈ Category.otherNumber :: Derived.wordSets, s.has c.toNat = false := by
  have hmisses : ∀ s ∈ Category.otherNumber :: Derived.wordSets, CodeSet.misses false s.changes blankPoints = true := by
    decide +kernel
  exact fun s hs => CodeSet.member_of_misses (hmisses s hs) (by decide) _ (mem_blankPoints h)

/-- White space does not belong to words. -/
theorem isWord_of_isBlank {c : Char} (h : isBlank c = true) : isWord c = false := by
  have hascii : ∀ n ∈ blankPoints, n < 0x80 → isWord (Char.ofNat n) = false := by decide
  by_cases hn : c.toNat < 0x80
  · have hw := hascii _ (mem_blankPoints h) hn
    rwa [Char.ofNat_toNat] at hw
  · rw [isWord_of_not_ascii hn, List.any_eq_false]
    intro s hs
    rw [has_listed_of_isBlank h s (List.mem_cons_of_mem _ hs)]
    exact Bool.false_ne_true

/-- White space holds neither letters nor numbers. -/
theorem isLetterOrNumber_of_isBlank {c : Char} (h : isBlank c = true) : isLetterOrNumber c = false := by
  have hascii : ∀ n ∈ blankPoints, n < 0x80 → isLetterOrNumber (Char.ofNat n) = false := by decide
  have hlater : ∀ n ∈ blankPoints, Later.alphabetic.has n = false ∧ Later.number.has n = false := by decide +kernel
  have hc : c.toNat ∈ blankPoints := mem_blankPoints h
  by_cases hn : c.toNat < 0x80
  · have hw := hascii _ hc hn
    rwa [Char.ofNat_toNat] at hw
  · have hlisted := has_listed_of_isBlank h
    simp only [Derived.wordSets, List.forall_mem_cons] at hlisted
    rw [isLetterOrNumber, isLetter, if_neg hn, isNumber, if_neg hn]
    simp [CodeSet.contains, Derived.isUnion_alphabetic.has, Derived.isUnion_number.has, Derived.alphabeticSets,
      Derived.numberSets, hlisted, hlater _ hc]

/-! ### Runs of case tables -/

theorem shifted_cases (table : List Shift) (n : Nat) :
    shifted table n = n ∨ ∃ run ∈ table, run.covers n = true ∧ shifted table n = run.apply n := by
  cases hrun : table.find? (·.covers n) with
  | none => exact .inl (by rw [shifted, hrun])
  | some run =>
    have hcovers : run.covers n = true := List.find?_some (p := fun run => Shift.covers run n) hrun
    exact .inr ⟨run, List.mem_of_find?_eq_some hrun, hcovers, by rw [shifted, hrun]⟩

theorem Shift.first_le {run : Shift} {n : Nat} (h : run.covers n = true) : run.first ≤ n := by
  simp only [covers, Bool.and_eq_true, decide_eq_true_eq] at h
  exact h.1.1

/-- A run covers no point beyond its last one. -/
theorem Shift.le_last {run : Shift} {n : Nat} (h : run.covers n = true) :
    n ≤ run.first + (run.count - 1) * run.step := by
  simp only [covers, Bool.and_eq_true, decide_eq_true_eq, beq_iff_eq] at h
  obtain ⟨⟨hfirst, hmod⟩, hdiv⟩ := h
  have hsteps : (n - run.first) / run.step * run.step = n - run.first :=
    Nat.div_mul_cancel (Nat.dvd_of_mod_eq_zero hmod)
  have hle : (n - run.first) / run.step * run.step ≤ (run.count - 1) * run.step :=
    Nat.mul_le_mul_right _ (Nat.le_sub_one_of_lt hdiv)
  omega

/-- The small letters. -/
def smallLetters : List Char :=
  "abcdefghijklmnopqrstuvwxyz".toList

/-- The runs of foldings: that of the capital letters, two that lead to small letters from beyond ASCII, namely the long s
and the sign of the kelvin, and those that have nothing to do with ASCII. -/
theorem fold_runs :
    ∀ run ∈ CaseTable.fold, run.first = 0x41 ∧ run.count = 26 ∧ run.step = 1 ∨
      (run.first = 0x17F ∨ run.first = 0x212A) ∧ run.count = 1 ∧ run.step = 1 ∨
      0x7A < run.first ∧ (0x7A : Int) < run.first + run.distance := by
  decide +kernel

theorem toNat_of_mem_smallLetters {k : Char} (h : k ∈ smallLetters) : 0x61 ≤ k.toNat ∧ k.toNat ≤ 0x7A := by
  have hletters : ∀ k ∈ smallLetters, 0x61 ≤ k.toNat ∧ k.toNat ≤ 0x7A := by decide
  exact hletters k h

/-- A small letter is its own folding. -/
theorem foldPoint_smallLetter {k : Char} (h : k ∈ smallLetters) : foldPoint k.toNat = k.toNat := by
  obtain ⟨hlow, hhigh⟩ := toNat_of_mem_smallLetters h
  rcases shifted_cases CaseTable.fold k.toNat with heq | ⟨run, hrun, hcovers, -⟩
  · exact heq
  · have hfirst := Shift.first_le hcovers
    rcases fold_runs run hrun with ⟨hcapital, hcount, hstep⟩ | ⟨hsign | hsign, -⟩ | ⟨hbeyond, -⟩
    · have hlast := Shift.le_last hcovers
      rw [hcount, hstep] at hlast
      omega
    all_goals omega

theorem isWord_of_letter {c : Char} (h : 0x41 ≤ c.toNat ∧ c.toNat ≤ 0x5A ∨ 0x61 ≤ c.toNat ∧ c.toNat ≤ 0x7A) :
    isWord c = true := by
  have hletters : ∀ n : Fin 0x80, 0x41 ≤ n.val ∧ n.val ≤ 0x5A ∨ 0x61 ≤ n.val ∧ n.val ≤ 0x7A →
      isWord (Char.ofNat n) = true := by
    decide +kernel
  have hword := hletters ⟨c.toNat, by omega⟩ h
  rwa [Char.ofNat_toNat] at hword

/-- Whatever differs from a small letter by case alone belongs to words. -/
theorem isWord_of_foldPoint {k c : Char} (hk : k ∈ smallLetters) (h : foldPoint c.toNat = k.toNat) :
    isWord c = true := by
  have hletter := toNat_of_mem_smallLetters hk
  rcases shifted_cases CaseTable.fold c.toNat with heq | ⟨run, hrun, hcovers, heq⟩
  · rw [foldPoint, heq] at h
    exact isWord_of_letter (by omega)
  · have hfirst := Shift.first_le hcovers
    rcases fold_runs run hrun with ⟨hcapital, hcount, hstep⟩ | ⟨hsign, hcount, hstep⟩ | ⟨-, hbeyond⟩
    · have hlast := Shift.le_last hcovers
      rw [hcount, hstep] at hlast
      exact isWord_of_letter (by omega)
    · have hlast := Shift.le_last hcovers
      rw [hcount] at hlast
      have hpoints : ∀ n ∈ [0x17F, 0x212A], Derived.wordSets.any (·.has n) = true := by decide +kernel
      rw [isWord_of_not_ascii (by omega)]
      exact hpoints _ (by simp; omega)
    · rw [foldPoint, heq, Shift.apply] at h
      omega

end SampleRecorder.Text
