import Mathlib
import SampleRecorder.Proofs.Text.Run

/-!
# Texts in another case

A sign beyond ASCII has no small letter as its lowercase form, but for the sign of the kelvin, which has the `k`.  So a
text whose lowercase form is written in other small letters is one in ASCII, and only the case of its letters has changed
(`toLower_eq_iff`).

A change of case may turn one character into up to three, but none of these into more: counting three letters for every
character that has so many in some case, and one for each of the others, gives a breadth of texts that no change of case
increases (`breadth_toUpper_le`, `breadth_toLower_le`).
-/

namespace SampleRecorder.Text

/-! ### Small letters -/

/-- The small letters that are lowercase forms in ASCII alone: all but the `k`. -/
def plainLetters : List Char :=
  "abcdefghijlmnopqrstuvwxyz".toList

/-- Lowercase forms of signs beyond ASCII are beyond it as well, but for the sign of the kelvin. -/
theorem shifted_lower {n : Nat} (h : 0x80 ≤ n) :
    0x80 ≤ shifted CaseTable.lower n ∨ shifted CaseTable.lower n = 'k'.toNat := by
  have hruns : ∀ run ∈ CaseTable.lower,
      (0x80 : Int) ≤ run.first + run.distance ∨ run.first = 0x212A ∧ run.count = 1 ∧ run.step = 1 ∧
        run.distance = -8383 := by
    decide +kernel
  rcases shifted_cases CaseTable.lower n with heq | ⟨run, hrun, hcovers, heq⟩
  · rw [heq]
    exact .inl h
  · have hfirst := Shift.first_le hcovers
    rw [heq, Shift.apply]
    rcases hruns run hrun with hlow | ⟨hkelvin, hcount, hstep, hdistance⟩
    · left
      omega
    · right
      simp only [Shift.covers, hkelvin, hcount, hstep, Nat.div_one, Bool.and_eq_true, decide_eq_true_eq] at hcovers
      obtain rfl : n = 0x212A := by omega
      rw [hdistance]
      rfl

theorem shifted_later_lower {n : Nat} (h : 0x80 ≤ n) : 0x80 ≤ shifted Later.lower n := by
  have hruns : ∀ run ∈ Later.lower, (0 : Int) ≤ run.distance := by decide
  rcases shifted_cases Later.lower n with heq | ⟨run, hrun, -, heq⟩
  · rwa [heq]
  · have hdistance := hruns run hrun
    rw [heq, Shift.apply]
    omega

theorem toNat_lt_of_mem_plainLetters {c : Char} (h : c ∈ plainLetters) : c.toNat ≠ 0 ∧ c.toNat < 0x80 := by
  have hletters : ∀ c ∈ plainLetters, c.toNat ≠ 0 ∧ c.toNat < 0x80 := by decide
  exact hletters c h

theorem ofNat_not_mem_plainLetters {n : Nat} (h : 0x80 ≤ n) : Char.ofNat n ∉ plainLetters := by
  intro hmem
  obtain ⟨hpos, hlt⟩ := toNat_lt_of_mem_plainLetters hmem
  rw [Char.toNat_ofNat] at hpos hlt
  split at hpos
  · next hvalid =>
    rw [if_pos hvalid] at hlt
    omega
  · exact hpos rfl

/-- The lowercase form of a sign beyond ASCII is not written in these small letters. -/
theorem exists_lower_not_mem {c : Char} (h : ¬c.toNat < 0x80) : ∃ d ∈ lower c, d ∉ plainLetters := by
  rw [lower, if_neg h]
  split
  · exact ⟨'\u0307', by decide, by decide⟩
  · refine ⟨_, List.mem_singleton_self _, ?_⟩
    rcases shifted_lower (Nat.le_of_not_lt h) with hlow | hkelvin
    · exact ofNat_not_mem_plainLetters (shifted_later_lower hlow)
    · rw [hkelvin]
      decide

theorem exists_lowerParts_not_mem (before : List Char) {s : List Char} {c : Char} (hc : c ∈ s) (h : ¬c.toNat < 0x80) :
    ∃ d ∈ (lowerParts before s).flatten, d ∉ plainLetters := by
  induction s generalizing before with
  | nil => cases hc
  | cons a s ih =>
    rw [lowerParts, List.flatten_cons]
    rcases List.mem_cons.mp hc with rfl | hc
    · split
      · refine ⟨_, List.mem_append_left _ (List.mem_singleton_self _), ?_⟩
        split <;> decide
      · obtain ⟨d, hd, hplain⟩ := exists_lower_not_mem h
        exact ⟨d, List.mem_append_left _ hd, hplain⟩
    · obtain ⟨d, hd, hplain⟩ := ih (a :: before) hc
      exact ⟨d, List.mem_append_right _ hd, hplain⟩

theorem toNat_lt_of_toLower_mem {c : Char} (h : c.toLower ∈ plainLetters) : c.toNat < 0x80 := by
  by_cases hupper : c.isUpper
  · have hlast : 'Z'.toNat = 90 := rfl
    simp only [Char.isUpper, UInt32.le_iff_toNat_le, Char.toNat_val, decide_eq_true_eq] at hupper
    omega
  · rw [Char.toLower_eq_of_not_isUpper hupper] at h
    exact (toNat_lt_of_mem_plainLetters h).2

/-- A text has a lowercase form in these small letters exactly if it is one in ASCII with some of them as capitals. -/
theorem toLower_eq_iff {s t : List Char} (ht : ∀ c ∈ t, c ∈ plainLetters) :
    toLower s = t ↔ s.map Char.toLower = t := by
  unfold toLower
  split
  · exact .rfl
  · next hascii =>
    simp only [List.all_eq_true, decide_eq_true_eq, not_forall] at hascii
    obtain ⟨c, hc, hhigh⟩ := hascii
    constructor
    · intro heq
      obtain ⟨d, hd, hplain⟩ := exists_lowerParts_not_mem [] hc hhigh
      exact absurd (ht d (heq ▸ hd)) hplain
    · intro heq
      exact absurd (toNat_lt_of_toLower_mem (ht _ (heq ▸ List.mem_map_of_mem hc))) hhigh

/-! ### Letters in another case -/

/-- The ranges of the characters that may have several letters in another case, or a letter there that has. -/
def wideRanges : List (Nat × Nat) :=
  [(0xDF, 0xDF), (0x130, 0x130), (0x149, 0x149), (0x1F0, 0x1F0), (0x390, 0x390), (0x3B0, 0x3B0), (0x587, 0x587),
    (0x1E96, 0x1E9E), (0x1F50, 0x1F5F), (0x1F80, 0x1FB9), (0x1FBC, 0x1FBC), (0x1FC2, 0x1FC7), (0x1FCC, 0x1FCC),
    (0x1FD2, 0x1FD7), (0x1FE2, 0x1FE4), (0x1FE6, 0x1FE7), (0x1FF2, 0x1FF7), (0x1FFC, 0x1FFC), (0xFB00, 0xFB17)]

def isWide (n : Nat) : Bool :=
  wideRanges.any fun r => r.1 ≤ n && n ≤ r.2

/-- How many letters a character has at most, however often its case is changed. -/
def width (c : Char) : Nat :=
  if isWide c.toNat then 3 else 1

/-- How many letters a text has at most, however often its case is changed. -/
def breadth : List Char → Nat
  | [] => 0
  | c :: s => width c + breadth s

theorem one_le_width (c : Char) : 1 ≤ width c := by
  unfold width
  split <;> decide

theorem width_le (c : Char) : width c ≤ 3 := by
  unfold width
  split <;> decide

@[simp] theorem breadth_append (s t : List Char) : breadth (s ++ t) = breadth s + breadth t := by
  induction s with
  | nil => rw [List.nil_append, breadth, Nat.zero_add]
  | cons c s ih => rw [List.cons_append, breadth, breadth, ih, Nat.add_assoc]

theorem length_le_breadth (s : List Char) : s.length ≤ breadth s := by
  induction s with
  | nil => exact Nat.le_refl 0
  | cons c s ih =>
    have := one_le_width c
    rw [List.length_cons, breadth]
    omega

theorem breadth_le_length (s : List Char) : breadth s ≤ 3 * s.length := by
  induction s with
  | nil => exact Nat.le_refl 0
  | cons c s ih =>
    have := width_le c
    rw [List.length_cons, breadth]
    omega

theorem breadth_le_of_sublist {s t : List Char} (h : s.Sublist t) : breadth s ≤ breadth t := by
  induction h with
  | slnil => exact Nat.le_refl _
  | cons c h ih => exact Nat.le_trans ih (Nat.le_add_left _ _)
  | cons_cons c h ih => exact Nat.add_le_add_left ih _

/-- Whether a run leads to wide characters from wide ones only. -/
def Shift.isNarrow (run : Shift) : Bool :=
  let last := run.first + (run.count - 1) * run.step
  (wideRanges.any fun r => r.1 ≤ run.first && last ≤ r.2) ||
    wideRanges.all fun r => (last + run.distance).toNat < r.1 || r.2 < (run.first + run.distance).toNat

theorem isWide_shifted {table : List Shift} (hnarrow : ∀ run ∈ table, run.isNarrow = true) {n : Nat}
    (h : isWide n = false) : isWide (shifted table n) = false := by
  rcases shifted_cases table n with heq | ⟨run, hrun, hcovers, heq⟩
  · rwa [heq]
  · have hfirst := Shift.first_le hcovers
    have hlast := Shift.le_last hcovers
    have hcases := hnarrow run hrun
    simp only [isWide, List.any_eq_false, Bool.and_eq_true, decide_eq_true_eq, not_and, not_le] at h
    simp only [Shift.isNarrow, Bool.or_eq_true, List.any_eq_true, List.all_eq_true, Bool.and_eq_true,
      decide_eq_true_eq] at hcases
    rw [heq, isWide, List.any_eq_false]
    intro r hr hboth
    obtain ⟨hlow, hhigh⟩ := Bool.and_eq_true_iff.mp hboth
    have hlow := of_decide_eq_true hlow
    have hhigh := of_decide_eq_true hhigh
    rw [Shift.apply] at hlow hhigh
    rcases hcases with ⟨r', hr', hwithin⟩ | hapart
    · have := h r' hr'
      omega
    · have := hapart r hr
      omega

theorem isWide_upper {n : Nat} (h : isWide n = false) : isWide (shifted Later.upper (shifted CaseTable.upper n)) = false :=
  isWide_shifted (by decide) (isWide_shifted (by decide +kernel) h)

theorem isWide_lower {n : Nat} (h : isWide n = false) : isWide (shifted Later.lower (shifted CaseTable.lower n)) = false :=
  isWide_shifted (by decide) (isWide_shifted (by decide +kernel) h)

/-- A character that another one becomes in another case has no more letters. -/
theorem width_le_of_isWide {c : Char} {n : Nat} (h : isWide c.toNat = false → isWide n = false) :
    width (Char.ofNat n) ≤ width c := by
  cases hc : isWide c.toNat with
  | true =>
    rw [width, width, if_pos hc]
    split <;> decide
  | false =>
    have hn : isWide (Char.ofNat n).toNat = false := by
      rw [Char.toNat_ofNat]
      split
      · exact h hc
      · rfl
    rw [width, width, hn, hc]

theorem breadth_ascii {f : Char → Char} (h : ∀ n : Fin 0x80, width (f (Char.ofNat n)) = 1) {c : Char}
    (hc : c.toNat < 0x80) : breadth [f c] ≤ width c := by
  have hone := h ⟨c.toNat, hc⟩
  rw [Char.ofNat_toNat] at hone
  rw [breadth, breadth, hone]
  exact one_le_width c

theorem breadth_upper_le (c : Char) : breadth (upper c) ≤ width c := by
  unfold upper
  split
  · next hc => exact breadth_ascii (by decide +kernel) hc
  · split
    · next image himage =>
      have hall : ∀ e ∈ CaseTable.upperSpecial, isWide e.1 = true ∧ breadth (e.2.map Char.ofNat) ≤ 3 := by
        decide +kernel
      obtain ⟨before, after, heq, -⟩ := List.lookup_eq_some_iff.mp himage
      obtain ⟨hwide, hle⟩ := hall (c.toNat, image) (heq ▸ List.mem_append_right before List.mem_cons_self)
      rwa [width, if_pos hwide]
    · rw [breadth, breadth, Nat.add_zero]
      exact width_le_of_isWide isWide_upper

theorem breadth_lower_le (c : Char) : breadth (lower c) ≤ width c := by
  unfold lower
  split
  · next hc => exact breadth_ascii (by decide +kernel) hc
  · split
    · next hdotted =>
      rw [hdotted]
      decide
    · rw [breadth, breadth, Nat.add_zero]
      exact width_le_of_isWide isWide_lower

theorem breadth_toUpper_le (s : List Char) : breadth (toUpper s) ≤ breadth s := by
  induction s with
  | nil => exact Nat.le_refl _
  | cons c s ih =>
    have := breadth_upper_le c
    rw [toUpper] at ih
    rw [toUpper, List.flatMap_cons, breadth_append, breadth]
    omega

theorem breadth_lowerParts_le (before s : List Char) : breadth (lowerParts before s).flatten ≤ breadth s := by
  induction s generalizing before with
  | nil => exact Nat.le_refl _
  | cons c s ih =>
    have hrest := ih (c :: before)
    rw [lowerParts, List.flatten_cons, breadth_append, breadth]
    split
    · have hsigma : breadth [if startsCased before && !startsCased s then 'ς' else 'σ'] = 1 := by
        split <;> decide
      have := one_le_width c
      omega
    · have := breadth_lower_le c
      omega

theorem breadth_toLower_le (s : List Char) : breadth (toLower s) ≤ breadth s := by
  unfold toLower
  split
  · next hascii =>
    induction s with
    | nil => exact Nat.le_refl _
    | cons c s ih =>
      obtain ⟨hc, hs⟩ := List.all_cons.symm.trans hascii |> Bool.and_eq_true_iff.mp
      have hfirst := breadth_ascii (f := Char.toLower) (by decide +kernel) (of_decide_eq_true hc)
      have hrest := ih hs
      rw [breadth, breadth, Nat.add_zero] at hfirst
      rw [List.map_cons, breadth, breadth]
      omega
  · exact breadth_lowerParts_le [] s

end SampleRecorder.Text
