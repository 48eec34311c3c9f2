import SampleRecorder.Proofs.Text.Split
import SampleRecorder.Text.Casing
import SampleRecorder.Text.Class

/-!
# The size of texts

How many bytes a text takes up.  A part of a text is not larger than the text, and each of the pieces that it is split
into is a part.  A text in upper or lower case has at most three times the size.
-/

namespace SampleRecorder.Text

variable {p s t : List Char}

/-- The number of bytes of a text. -/
def bytes : List Char → Nat
  | [] => 0
  | c :: s => c.utf8Size + bytes s

@[simp] theorem bytes_nil : bytes [] = 0 :=
  rfl

@[simp] theorem bytes_cons (c : Char) (s : List Char) : bytes (c :: s) = c.utf8Size + bytes s :=
  rfl

@[simp] theorem bytes_append (s t : List Char) : bytes (s ++ t) = bytes s + bytes t := by
  induction s with
  | nil => rw [List.nil_append, bytes_nil, Nat.zero_add]
  | cons c s ih => rw [List.cons_append, bytes_cons, bytes_cons, ih, Nat.add_assoc]

@[simp] theorem utf8ByteSize_ofList (s : List Char) : (String.ofList s).utf8ByteSize = bytes s := by
  induction s with
  | nil => rfl
  | cons c s ih =>
    have hcons : String.ofList (c :: s) = String.singleton c ++ String.ofList s := by
      rw [String.singleton_eq_ofList, ← String.ofList_append]
      rfl
    rw [hcons, String.utf8ByteSize_append, String.utf8ByteSize_singleton, ih, bytes_cons]

@[simp] theorem bytes_toList (s : String) : bytes s.toList = s.utf8ByteSize := by
  rw [← utf8ByteSize_ofList, String.ofList_toList]

theorem bytes_replicate (n : Nat) (c : Char) : bytes (List.replicate n c) = n * c.utf8Size := by
  induction n with
  | zero => rw [List.replicate_zero, bytes_nil, Nat.zero_mul]
  | succ n ih => rw [List.replicate_succ, bytes_cons, ih, Nat.succ_mul, Nat.add_comm]

theorem length_le_bytes (s : List Char) : s.length ≤ bytes s := by
  induction s with
  | nil => exact Nat.le_refl 0
  | cons c s ih =>
    have hpos := c.utf8Size_pos
    rw [List.length_cons, bytes_cons]
    omega

theorem bytes_le_length (s : List Char) : bytes s ≤ 4 * s.length := by
  induction s with
  | nil => exact Nat.le_refl 0
  | cons c s ih =>
    have hsize := c.utf8Size_le_four
    rw [List.length_cons, bytes_cons]
    omega

/-! ### Parts -/

theorem bytes_le_of_sublist (h : s.Sublist t) : bytes s ≤ bytes t := by
  induction h with
  | slnil => exact Nat.le_refl _
  | cons c h ih => exact Nat.le_trans ih (by rw [bytes_cons]; exact Nat.le_add_left _ _)
  | cons_cons c h ih =>
    rw [bytes_cons, bytes_cons]
    exact Nat.add_le_add_left ih _

theorem trim_sublist (s : List Char) : (trim s).Sublist s := by
  rw [trim, ← List.reverse_sublist, List.reverse_reverse]
  exact (List.dropWhile_sublist _).trans (List.reverse_sublist.mpr (List.dropWhile_sublist _))

theorem sublist_of_mem_split {piece : List Char} (h : piece ∈ split p s) : piece.Sublist s := by
  fun_induction split p s with
  | case1 s => exact List.mem_singleton.mp h ▸ .refl s
  | case2 s hp a b hcut hlt ih =>
    rw [eq_of_cut?_eq_some hcut]
    rcases List.mem_cons.mp h with rfl | h
    · rw [List.append_assoc]
      exact List.sublist_append_left _ _
    · exact (ih h).trans (List.sublist_append_right _ _)
  | case3 s hp hcut => exact List.mem_singleton.mp h ▸ .refl s

/-! ### Upper and lower case -/

theorem one_lt_utf8Size {c : Char} (h : ¬c.toNat < 0x80) : 1 < c.utf8Size := by
  have hne : c.utf8Size ≠ 1 := fun hone => h (Nat.lt_succ_of_le (Char.utf8Size_eq_one_iff.mp hone))
  have := c.utf8Size_pos
  omega

theorem bytes_singleton_le (c : Char) : bytes [c] ≤ 4 := by
  rw [bytes_cons, bytes_nil]
  exact c.utf8Size_le_four

theorem bytes_ascii_le {f : Char → Char} (h : ∀ n : Fin 0x80, (f (Char.ofNat n)).utf8Size = 1) {c : Char}
    (hc : c.toNat < 0x80) : bytes [f c] ≤ 3 * c.utf8Size := by
  have hone := h ⟨c.toNat, hc⟩
  have hpos := c.utf8Size_pos
  rw [Char.ofNat_toNat] at hone
  rw [bytes_cons, bytes_nil, hone]
  omega

theorem bytes_upper_le (c : Char) : bytes (upper c) ≤ 3 * c.utf8Size := by
  unfold upper
  split
  · next hc => exact bytes_ascii_le (by decide) hc
  · next hc =>
    have hsize := one_lt_utf8Size hc
    split
    · next image himage =>
      have hall : ∀ e ∈ CaseTable.upperSpecial, bytes (e.2.map Char.ofNat) ≤ 6 := by decide +kernel
      obtain ⟨before, after, heq, -⟩ := List.lookup_eq_some_iff.mp himage
      have hle : bytes (image.map Char.ofNat) ≤ 6 :=
        hall (c.toNat, image) (heq ▸ List.mem_append_right before List.mem_cons_self)
      omega
    · have := bytes_singleton_le (Char.ofNat (shifted Later.upper (shifted CaseTable.upper c.toNat)))
      omega

theorem bytes_lower_le (c : Char) : bytes (lower c) ≤ 3 * c.utf8Size := by
  unfold lower
  split
  · next hc => exact bytes_ascii_le (by decide) hc
  · next hc =>
    have hsize := one_lt_utf8Size hc
    split
    · have hdotted : bytes ['i', '\u0307'] = 3 := by decide
      omega
    · have := bytes_singleton_le (Char.ofNat (shifted Later.lower (shifted CaseTable.lower c.toNat)))
      omega

theorem bytes_toUpper_le (s : List Char) : bytes (toUpper s) ≤ 3 * bytes s := by
  induction s with
  | nil => exact Nat.le_refl _
  | cons c s ih =>
    have := bytes_upper_le c
    rw [toUpper, List.flatMap_cons, bytes_append, bytes_cons]
    rw [toUpper] at ih
    omega

theorem bytes_toUpper_replicate (n : Nat) (c : Char) : bytes (toUpper (List.replicate n c)) = n * bytes (upper c) := by
  induction n with
  | zero => rw [Nat.zero_mul]; rfl
  | succ n ih =>
    rw [toUpper] at ih
    rw [toUpper, List.replicate_succ, List.flatMap_cons, bytes_append, ih, Nat.succ_mul, Nat.add_comm]

theorem bytes_lowerParts_le (before s : List Char) : bytes (lowerParts before s).flatten ≤ 3 * bytes s := by
  induction s generalizing before with
  | nil => exact Nat.le_refl _
  | cons c s ih =>
    have hrest := ih (c :: before)
    rw [lowerParts, List.flatten_cons, bytes_append, bytes_cons]
    split
    · next hsigma =>
      have himage := bytes_singleton_le (if startsCased before && !startsCased s then 'ς' else 'σ')
      have hsize : c.utf8Size = 2 := by rw [hsigma]; decide
      omega
    · have := bytes_lower_le c
      omega

theorem bytes_toLower_le (s : List Char) : bytes (toLower s) ≤ 3 * bytes s := by
  unfold toLower
  split
  · next hascii =>
    induction s with
    | nil => exact Nat.le_refl _
    | cons c s ih =>
      obtain ⟨hc, hs⟩ := List.all_cons.symm.trans hascii |> Bool.and_eq_true_iff.mp
      have := bytes_ascii_le (f := Char.toLower) (by decide) (of_decide_eq_true hc)
      have := ih hs
      rw [List.map_cons, bytes_cons, bytes_cons]
      rw [bytes_cons, bytes_nil] at *
      omega
  · exact bytes_lowerParts_le [] s

end SampleRecorder.Text
