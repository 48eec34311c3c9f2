import Mathlib.Data.List.Chain
import Mathlib.Data.List.TakeWhile
import SampleRecorder.Text.Derived

/-!
# Unions of sets of code points

The operations on sets walk over ascending lists and give ascending lists (`pairwise_walk`), so they can be nested: a
union of many sets holds a point when one of them does (`IsUnion.cons`).  For letters, numbers and characters of words
this reads membership off the listed sets (`isUnion_alphabetic`, `isUnion_number`, `isUnion_word`).
-/

namespace SampleRecorder.Text.CodeSet

/-- The points where membership changes are listed in ascending order. -/
def IsAscending (s : CodeSet) : Prop :=
  s.changes.Pairwise (· < ·)

theorem isAscending_of_isChain {s : CodeSet} (h : s.changes.IsChain (· < ·)) : s.IsAscending :=
  List.isChain_iff_pairwise.1 h

/-! ### The walk -/

theorem mem_turn {before after : Bool} {n m : Nat} {rest : List Nat} (h : m ∈ turn before after n rest) :
    m = n ∨ m ∈ rest := by
  unfold turn at h
  split at h
  · exact .inr h
  · exact List.mem_cons.1 h

/-- A walk makes up no points. -/
theorem mem_walk {op : Bool → Bool → Bool} {p q : Bool} {as bs : List Nat} {m : Nat} (h : m ∈ walk op p q as bs) :
    m ∈ as ∨ m ∈ bs := by
  fun_induction walk op p q as bs with
  | case1 => simp at h
  | case2 p q a as ih =>
    obtain rfl | h := mem_turn h
    · simp
    · have := ih h
      simp_all
  | case3 p q b bs ih =>
    obtain rfl | h := mem_turn h
    · simp
    · have := ih h
      simp_all
  | case4 p q a as b bs hab ih =>
    obtain rfl | h := mem_turn h
    · simp
    · exact (ih h).imp_left (List.mem_cons_of_mem a)
  | case5 p q a as b bs hab hba ih =>
    obtain rfl | h := mem_turn h
    · simp
    · exact (ih h).imp_right (List.mem_cons_of_mem b)
  | case6 p q a as b bs hab hba ih =>
    obtain rfl | h := mem_turn h
    · simp
    · exact (ih h).imp (List.mem_cons_of_mem a) (List.mem_cons_of_mem b)

theorem pairwise_turn {before after : Bool} {n : Nat} {rest : List Nat} (hn : ∀ m ∈ rest, n < m)
    (hrest : rest.Pairwise (· < ·)) : (turn before after n rest).Pairwise (· < ·) := by
  unfold turn
  split
  · exact hrest
  · exact List.pairwise_cons.2 ⟨hn, hrest⟩

theorem le_of_mem_cons {b m : Nat} {bs : List Nat} (hb : (b :: bs).Pairwise (· < ·)) (hm : m ∈ b :: bs) : b ≤ m := by
  obtain rfl | hm := List.mem_cons.1 hm
  · exact Nat.le_refl m
  · exact Nat.le_of_lt ((List.pairwise_cons.1 hb).1 m hm)

/-- A walk over ascending lists gives an ascending list. -/
theorem pairwise_walk {op : Bool → Bool → Bool} {p q : Bool} {as bs : List Nat} (ha : as.Pairwise (· < ·))
    (hb : bs.Pairwise (· < ·)) : (walk op p q as bs).Pairwise (· < ·) := by
  fun_induction walk op p q as bs with
  | case1 => exact .nil
  | case2 p q a as ih =>
    obtain ⟨hlow, ha⟩ := List.pairwise_cons.1 ha
    refine pairwise_turn (fun m hm => ?_) (ih ha hb)
    exact (mem_walk hm).elim (hlow m) (by simp)
  | case3 p q b bs ih =>
    obtain ⟨hlow, hb⟩ := List.pairwise_cons.1 hb
    refine pairwise_turn (fun m hm => ?_) (ih ha hb)
    exact (mem_walk hm).elim (by simp) (hlow m)
  | case4 p q a as b bs hab ih =>
    obtain ⟨hlow, ha⟩ := List.pairwise_cons.1 ha
    refine pairwise_turn (fun m hm => ?_) (ih ha hb)
    obtain hm | hm := mem_walk hm
    · exact hlow m hm
    · exact Nat.lt_of_lt_of_le hab (le_of_mem_cons hb hm)
  | case5 p q a as b bs hab hba ih =>
    obtain ⟨hlow, hb⟩ := List.pairwise_cons.1 hb
    refine pairwise_turn (fun m hm => ?_) (ih ha hb)
    obtain hm | hm := mem_walk hm
    · exact Nat.lt_of_lt_of_le hba (le_of_mem_cons ha hm)
    · exact hlow m hm
  | case6 p q a as b bs hab hba ih =>
    obtain ⟨hlow, ha⟩ := List.pairwise_cons.1 ha
    obtain ⟨hlow', hb⟩ := List.pairwise_cons.1 hb
    refine pairwise_turn (fun m hm => ?_) (ih ha hb)
    obtain hm | hm := mem_walk hm
    · exact hlow m hm
    · have := hlow' m hm
      omega

/-! ### Points beside a set -/

/-- Whether none of ascending points is in a set, whose changes are gone through once. -/
def misses (inside : Bool) : List Nat → List Nat → Bool
  | _, [] => true
  | [], _ :: _ => !inside
  | b :: rest, n :: points => (!inside || b ≤ n) && misses (!inside) rest ((n :: points).dropWhile (· < b))

theorem member_of_misses {inside : Bool} {changes points : List Nat} (h : misses inside changes points = true)
    (hpoints : points.Pairwise (· < ·)) : ∀ n ∈ points, member changes n = inside := by
  induction changes generalizing inside points with
  | nil =>
    cases points with
    | nil => exact nofun
    | cons n points =>
      rw [misses, Bool.not_eq_true'] at h
      exact fun _ _ => h.symm
  | cons b rest ih =>
    cases points with
    | nil => exact nofun
    | cons n points =>
      simp only [misses, Bool.and_eq_true, Bool.or_eq_true, Bool.not_eq_true', decide_eq_true_eq] at h
      intro m hm
      rw [member]
      split
      · next hlt =>
        rcases h.1 with hout | hle
        · exact hout.symm
        · have := le_of_mem_cons hpoints hm
          omega
      · next hge =>
        have hlater : m ∈ (n :: points).dropWhile (· < b) := by
          rw [← List.takeWhile_append_dropWhile (p := (· < b)) (l := n :: points), List.mem_append] at hm
          refine hm.resolve_left fun hfirst => hge ?_
          exact of_decide_eq_true (List.mem_takeWhile_imp (p := fun x => decide (x < b)) hfirst)
        rw [ih h.2 (hpoints.sublist (List.dropWhile_sublist _)) m hlater, Bool.not_not]

/-! ### Unions -/

/-- A set holds the points that one of the listed sets holds. -/
structure IsUnion (s : CodeSet) (sets : List CodeSet) : Prop where
  ascending : s.IsAscending
  has : ∀ n, s.has n = sets.any (·.has n)

namespace IsUnion

variable {s t : CodeSet} {a b sets : List CodeSet}

theorem single (h : s.IsAscending) : IsUnion s [s] :=
  ⟨h, by simp⟩

theorem union (hs : IsUnion s a) (ht : IsUnion t b) : IsUnion (s.union t) (a ++ b) where
  ascending := pairwise_walk hs.ascending ht.ascending
  has n := by
    rw [member_union s t n hs.ascending ht.ascending, hs.has, ht.has, List.any_append]

theorem nil : IsUnion (unions []) [] :=
  ⟨.nil, fun _ => rfl⟩

theorem cons (hs : IsUnion s a) (hsets : IsUnion (unions sets) b) : IsUnion (unions (s :: sets)) (a ++ b) :=
  hs.union hsets

end IsUnion

end SampleRecorder.Text.CodeSet

/-! ### Letters, numbers and characters of words -/

namespace SampleRecorder.Text.Derived

open Category Property CodeSet

/-- The listed sets that the letters are drawn from. -/
def alphabeticSets : List CodeSet :=
  [lowercaseLetter, otherLowercase, uppercaseLetter, otherUppercase, titlecaseLetter, modifierLetter, otherLetter,
    letterNumber, otherAlphabetic]

/-- The listed sets that the numbers are drawn from. -/
def numberSets : List CodeSet :=
  [decimalNumber, letterNumber, otherNumber]

/-- The listed sets that the characters of words are drawn from. -/
def wordSets : List CodeSet :=
  [lowercaseLetter, otherLowercase, uppercaseLetter, otherUppercase, titlecaseLetter, modifierLetter, otherLetter,
    letterNumber, otherAlphabetic, nonspacingMark, spacingMark, enclosingMark, decimalNumber, connectorPunctuation,
    joinControl]

theorem isUnion_listed : ∀ s ∈ otherNumber :: wordSets, IsUnion s [s] := by
  have hchain : ∀ s ∈ otherNumber :: wordSets, s.changes.IsChain (· < ·) := by decide +kernel
  exact fun s hs => .single (CodeSet.isAscending_of_isChain (hchain s hs))

/-- A character is a letter when one of the listed sets holds it. -/
theorem isUnion_alphabetic : IsUnion alphabetic alphabeticSets := by
  have listed : ∀ s ∈ alphabeticSets, IsUnion s [s] := fun s hs =>
    isUnion_listed s (List.mem_cons_of_mem _ (List.mem_append_left [_, _, _, _, _, _] hs))
  simp only [alphabeticSets, List.forall_mem_cons] at listed
  obtain ⟨hsmall, hsmall', hcapital, hcapital', htitle, hmodifier, hletter, hnumeral, halphabetic, -⟩ := listed
  exact (hsmall.union hsmall').cons ((hcapital.union hcapital').cons
    (htitle.cons (hmodifier.cons (hletter.cons (hnumeral.cons (halphabetic.cons .nil))))))

/-- A character is a number when one of the listed sets holds it. -/
theorem isUnion_number : IsUnion number numberSets := by
  have hdigit := isUnion_listed decimalNumber (by simp [wordSets])
  have hnumeral := isUnion_listed letterNumber (by simp [wordSets])
  have hother := isUnion_listed otherNumber List.mem_cons_self
  exact hdigit.cons (hnumeral.cons (hother.cons .nil))

/-- A character belongs to words when one of the listed sets holds it. -/
theorem isUnion_word : IsUnion word wordSets := by
  have listed := isUnion_listed
  simp only [wordSets, List.forall_mem_cons] at listed
  obtain ⟨-, -, -, -, -, -, -, -, -, -, hover, hspacing, henclosing, hdigit, hconnector, hjoiner, -⟩ := listed
  have hmark : IsUnion mark [nonspacingMark, spacingMark, enclosingMark] :=
    hover.cons (hspacing.cons (henclosing.cons .nil))
  exact isUnion_alphabetic.cons (hmark.cons (hdigit.cons (hconnector.cons (hjoiner.cons .nil))))

end SampleRecorder.Text.Derived
