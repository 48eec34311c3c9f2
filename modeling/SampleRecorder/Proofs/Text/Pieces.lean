import SampleRecorder.Proofs.Text.Trim

/-!
# Pieces of a text

What it means to cut a text at a separator and to trim it, said by the text alone: a separator is met where it first
occurs (`Splits`), and what is cut off is white space up to a character that is none (`Trims`).  Both determine their
results, which are those of `split` and `trim` (`splits_iff`, `trims_iff`).
-/

namespace SampleRecorder.Text

/-- Whether `pieces` are what is left of a text between the occurrences of `p` that are met from left to right.  Behind
a piece `p` has its first occurrence if none ends before that. -/
inductive Splits (p : List Char) : List Char → List (List Char) → Prop
  | last {s : List Char} (h : ¬p <:+: s) : Splits p s [s]
  | cut {a s : List Char} {pieces : List (List Char)} (h : ¬p <:+: a ++ p.dropLast) (hs : Splits p s pieces) :
    Splits p (a ++ (p ++ s)) (a :: pieces)

/-- Whether `t` is `s` without the white space at its ends. -/
structure Trims (s t : List Char) : Prop where
  around : ∃ a b, s = a ++ (t ++ b) ∧ (∀ c ∈ a, isBlank c = true) ∧ ∀ c ∈ b, isBlank c = true
  first : ∀ c ∈ t.head?, isBlank c = false
  last : ∀ c ∈ t.getLast?, isBlank c = false

variable {p s t : List Char}

/-! ### Separators -/

/-- A text is cut in front of an occurrence if no other one ends before it does. -/
theorem cut?_of_first (hp : p ≠ []) {a : List Char} (h : ¬p <:+: a ++ p.dropLast) (s : List Char) :
    cut? p (a ++ (p ++ s)) = some (a, s) := by
  induction a with
  | nil => exact cut?_append_self hp s
  | cons c a ih =>
    have htail : ¬p <:+: a ++ p.dropLast := fun hin => h (hin.trans (List.suffix_cons c _).isInfix)
    have hstrip : strip? p (c :: (a ++ (p ++ s))) = none := by
      cases hr : strip? p (c :: (a ++ (p ++ s))) with
      | none => rfl
      | some r =>
        -- an occurrence that begins here ends before the other one does
        have hhere : p <+: c :: (a ++ (p ++ s)) := ⟨r, (strip?_eq_some_iff.mp hr).symm⟩
        have hbefore : c :: a ++ p.dropLast <+: c :: (a ++ (p ++ s)) := by
          obtain ⟨z, hz⟩ := (List.dropLast_prefix p).trans (List.prefix_append p s)
          exact ⟨z, by rw [List.cons_append, List.cons_append, List.append_assoc, hz]⟩
        have hlength : p.length ≤ (c :: a ++ p.dropLast).length := by
          simp only [List.length_append, List.length_cons, List.length_dropLast]
          omega
        exact absurd (List.prefix_of_prefix_length_le hhere hbefore hlength).isInfix h
    rw [List.cons_append, cut?_cons_of_strip? hstrip, ih htail]
    rfl

/-- No occurrence ends before the first one does. -/
theorem not_isInfix_of_cut? (hp : p ≠ []) {a b : List Char} (h : cut? p s = some (a, b)) :
    ¬p <:+: a ++ p.dropLast := by
  rw [← cut?_eq_none_iff]
  cases hfirst : cut? p (a ++ p.dropLast) with
  | none => rfl
  | some xy =>
    have hs : s = a ++ p.dropLast ++ (p.getLast hp :: b) := by
      rw [eq_of_cut?_eq_some h, List.append_assoc, List.append_assoc, List.append_cons, List.append_assoc,
        ← List.append_assoc p.dropLast, List.dropLast_concat_getLast hp]
    have happend := cut?_append hfirst (p.getLast hp :: b)
    rw [← hs, h] at happend
    have hlength := congrArg List.length (eq_of_cut?_eq_some hfirst)
    rw [← (Prod.mk.inj (Option.some.inj happend)).1] at hlength
    have hpos := List.length_pos_iff.mpr hp
    simp only [List.length_append, List.length_dropLast] at hlength
    omega

theorem splits_split (hp : p ≠ []) (s : List Char) : Splits p s (split p s) := by
  fun_induction split p s with
  | case1 s hempty => exact absurd hempty hp
  | case2 s hp a b h hlt ih =>
    rw [eq_of_cut?_eq_some h, List.append_assoc]
    exact .cut (not_isInfix_of_cut? hp h) ih
  | case3 s hp h => exact .last (cut?_eq_none_iff.mp h)

/-- The pieces of a text are determined, and `split` gives them. -/
theorem splits_iff (hp : p ≠ []) {pieces : List (List Char)} : Splits p s pieces ↔ pieces = split p s := by
  constructor
  · intro h
    induction h with
    | last h => rw [split_of_cut?_eq_none (cut?_eq_none_iff.mpr h)]
    | cut h _ ih => rw [split_of_cut?_eq_some hp (cut?_of_first hp h _), ih]
  · rintro rfl
    exact splits_split hp s

/-! ### White space -/

/-- The trimmed text is determined, and `trim` gives it. -/
theorem trims_iff : Trims s t ↔ t = trim s := by
  constructor
  · rintro ⟨⟨a, b, rfl, ha, hb⟩, hfirst, hlast⟩
    have hstops : Stops isBlank t.reverse := by
      intro c hc
      rw [List.head?_reverse] at hc
      exact hlast c hc
    rw [trim_append_left ha, trim_append_right hb, trim_of_ends hfirst hstops]
  · rintro rfl
    exact ⟨exists_eq_append_trim s, stops_trim s, isBlank_of_mem_getLast?_trim s⟩

end SampleRecorder.Text
