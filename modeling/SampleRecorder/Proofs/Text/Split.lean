import SampleRecorder.Text.Search

/-!
# Splitting a text that grows

What more text does to the pieces of a split.  A first occurrence stays the first one when text is put behind it
(`cut?_append`), so all pieces but the last are final, and the last one goes on with the new text (`split_append`).
-/

namespace SampleRecorder.Text

theorem strip?_append {p s r : List Char} (h : strip? p s = some r) (t : List Char) :
    strip? p (s ++ t) = some (r ++ t) := by
  rw [strip?_eq_some_iff] at h ⊢
  simp [h]

/-- A text that is long enough and does not begin with `p` never will. -/
theorem strip?_append_eq_none {p s : List Char} (hlen : p.length ≤ s.length) (h : strip? p s = none)
    (t : List Char) : strip? p (s ++ t) = none := by
  cases hr : strip? p (s ++ t) with
  | none => rfl
  | some r =>
    -- both `p` and `s` stand at the start of `s ++ t`, and `p` is not the longer one
    have hpre : p <+: s := by
      refine List.prefix_of_prefix_length_le ⟨r, ?_⟩ (List.prefix_append s t) hlen
      exact (strip?_eq_some_iff.1 hr).symm
    obtain ⟨r', hr'⟩ := hpre
    rw [strip?_eq_some_iff.2 hr'.symm] at h
    cases h

theorem length_le_of_cutFrom? {p seen s a b : List Char} (h : cutFrom? p seen s = some (a, b)) :
    p.length ≤ s.length := by
  induction s generalizing seen with
  | nil =>
    unfold cutFrom? at h
    split at h
    · next hp => simp [hp]
    · cases h
  | cons c s ih =>
    unfold cutFrom? at h
    split at h
    · next r hr =>
      rw [strip?_eq_some_iff.1 hr]
      simp
    · have := ih h
      simp only [List.length_cons]
      omega

theorem cutFrom?_append {p seen s a b : List Char} (h : cutFrom? p seen s = some (a, b)) (t : List Char) :
    cutFrom? p seen (s ++ t) = some (a, b ++ t) := by
  induction s generalizing seen with
  | nil =>
    unfold cutFrom? at h
    split at h
    · next hp =>
      cases h
      subst hp
      cases t <;> simp [cutFrom?, strip?]
    · cases h
  | cons c s ih =>
    have hlen : p.length ≤ (c :: s).length := length_le_of_cutFrom? h
    unfold cutFrom? at h
    rw [List.cons_append, cutFrom?]
    split at h
    · next r hr =>
      cases h
      rw [← List.cons_append, strip?_append hr]
    · next hr =>
      rw [← List.cons_append, strip?_append_eq_none hlen hr]
      exact ih h

/-- The first occurrence stays the first one when the text goes on. -/
theorem cut?_append {p s a b : List Char} (h : cut? p s = some (a, b)) (t : List Char) :
    cut? p (s ++ t) = some (a, b ++ t) :=
  cutFrom?_append h t

theorem cut?_append_self {p : List Char} (hp : p ≠ []) (s : List Char) : cut? p (p ++ s) = some ([], s) := by
  obtain ⟨c, q, rfl⟩ := List.exists_cons_of_ne_nil hp
  rw [List.cons_append, cut?, cutFrom?, ← List.cons_append, strip?_eq_some_iff.mpr rfl]
  rfl

theorem split_empty (s : List Char) : split [] s = [s] := by
  rw [split, dif_pos rfl]

theorem split_of_cut?_eq_some {p s a b : List Char} (hp : p ≠ []) (h : cut? p s = some (a, b)) :
    split p s = a :: split p b := by
  rw [split, dif_neg hp]
  split
  · next a' b' h' =>
    rw [h] at h'
    cases h'
    rfl
  · next h' => simp [h] at h'

theorem split_of_cut?_eq_none {p s : List Char} (h : cut? p s = none) : split p s = [s] := by
  rw [split]
  split
  · rfl
  · split
    · next h' => simp [h] at h'
    · rfl

/-- The text behind the last occurrence of `p` in `s`. -/
def lastPiece (p s : List Char) : List Char :=
  (split p s).getLast?.getD []

theorem getLast?_split (p s : List Char) : (split p s).getLast? = some (lastPiece p s) := by
  rw [lastPiece, List.getLast?_eq_some_getLast (split_ne_nil p s)]
  rfl

theorem lastPiece_of_cut?_eq_some {p s a b : List Char} (hp : p ≠ []) (h : cut? p s = some (a, b)) :
    lastPiece p s = lastPiece p b := by
  obtain ⟨x, xs, hx⟩ := List.exists_cons_of_ne_nil (split_ne_nil p b)
  rw [lastPiece, split_of_cut?_eq_some hp h, hx, List.getLast?_cons_cons, ← hx, lastPiece]

theorem lastPiece_of_cut?_eq_none {p s : List Char} (h : cut? p s = none) : lastPiece p s = s := by
  rw [lastPiece, split_of_cut?_eq_none h]
  rfl

/-- More text changes no piece but the last one. -/
theorem split_append (p s t : List Char) :
    split p (s ++ t) = (split p s).dropLast ++ split p (lastPiece p s ++ t) := by
  fun_induction split p s with
  | case1 s hp =>
    subst hp
    simp [lastPiece, split_empty]
  | case2 s hp a b h hlt ih =>
    -- the first piece stays, and the rest behind it is split in the same way
    rw [split_of_cut?_eq_some hp (cut?_append h t), lastPiece_of_cut?_eq_some hp h, ih,
      List.dropLast_cons_of_ne_nil (split_ne_nil p b)]
    rfl
  | case3 s hp h => simp [lastPiece_of_cut?_eq_none h]

theorem dropLast_split_append_text (p s t : List Char) :
    (split p (s ++ t)).dropLast = (split p s).dropLast ++ (split p (lastPiece p s ++ t)).dropLast := by
  rw [split_append, List.dropLast_append_of_ne_nil (split_ne_nil p _)]

theorem lastPiece_append (p s t : List Char) : lastPiece p (s ++ t) = lastPiece p (lastPiece p s ++ t) := by
  rw [lastPiece, split_append, List.getLast?_append, getLast?_split]
  rfl

theorem join_eq_intercalate (p : List Char) (pieces : List (List Char)) : join p pieces = p.intercalate pieces := by
  fun_induction join p pieces with
  | case1 => rfl
  | case2 a => exact List.intercalate_singleton.symm
  | case3 a b rest ih => rw [List.intercalate_cons_cons, ih]

/-- Single characters with nothing between them make up the text. -/
theorem intercalate_characters (s : List Char) : [].intercalate (s.map fun c => [c]) = s := by
  induction s with
  | nil => rfl
  | cons c s ih =>
    cases s with
    | nil => rfl
    | cons d s =>
      rw [List.map_cons, List.map_cons, List.intercalate_cons_cons]
      exact congrArg (c :: ·) ih

theorem split_nil {p : List Char} (hp : p ≠ []) : split p [] = [[]] :=
  split_of_cut?_eq_none (by simp [cut?, cutFrom?, hp])

/-! ### One more character in front -/

theorem cutFrom?_eq_map (p seen s : List Char) :
    cutFrom? p seen s = (cutFrom? p [] s).map fun ab => (seen.reverse ++ ab.1, ab.2) := by
  induction s generalizing seen with
  | nil =>
    unfold cutFrom?
    split <;> simp
  | cons c s ih =>
    rw [cutFrom?, cutFrom?]
    cases strip? p (c :: s) with
    | some r => simp
    | none =>
      dsimp only
      rw [ih (c :: seen), ih [c], Option.map_map]
      congr 1
      funext ab
      simp

theorem cut?_cons_of_strip? {p s : List Char} {c : Char} (h : strip? p (c :: s) = none) :
    cut? p (c :: s) = (cut? p s).map fun ab => (c :: ab.1, ab.2) := by
  rw [cut?, cutFrom?, h]
  exact cutFrom?_eq_map p [c] s

/-- In front of the first occurrence none begins. -/
theorem not_isPrefix_of_cut? {p s a b : List Char} {c : Char} {t : List Char}
    (h : cut? p s = some (a ++ c :: b, t)) : ¬p <+: c :: (b ++ (p ++ t)) := by
  have hs := eq_of_cut?_eq_some h
  rw [List.append_assoc, List.append_assoc, List.cons_append] at hs
  subst hs
  induction a with
  | nil =>
    rintro ⟨r, hr⟩
    rw [List.nil_append, List.nil_append, cut?, cutFrom?, strip?_eq_some_iff.mpr hr.symm] at h
    cases h
  | cons d a ih =>
    rw [List.cons_append, List.cons_append] at h
    cases hstrip : strip? p (d :: (a ++ c :: (b ++ (p ++ t)))) with
    | some r =>
      rw [cut?, cutFrom?, hstrip] at h
      cases h
    | none =>
      rw [cut?_cons_of_strip? hstrip] at h
      obtain ⟨⟨x, y⟩, hcut, heq⟩ := Option.map_eq_some_iff.mp h
      cases heq
      exact ih hcut

/-- Where no separator begins, one more character in front goes to the first piece. -/
theorem split_cons_of_strip? {p s : List Char} {c : Char} (h : strip? p (c :: s) = none) :
    ∃ x xs, split p s = x :: xs ∧ split p (c :: s) = (c :: x) :: xs := by
  have hp : p ≠ [] := by
    rintro rfl
    cases h
  have hcut := cut?_cons_of_strip? h
  cases hs : cut? p s with
  | none => exact ⟨s, [], split_of_cut?_eq_none hs, split_of_cut?_eq_none (by rw [hcut, hs]; rfl)⟩
  | some ab =>
    exact ⟨ab.1, split p ab.2, split_of_cut?_eq_some hp hs, split_of_cut?_eq_some hp (by rw [hcut, hs]; rfl)⟩

/-! ### Separators of one character -/

theorem cut?_singleton_cons_self (q : Char) (s : List Char) : cut? [q] (q :: s) = some ([], s) := by
  simp [cut?, cutFrom?, strip?]

theorem strip?_singleton_eq_none {q c : Char} (h : c ≠ q) (s : List Char) : strip? [q] (c :: s) = none := by
  simp [strip?, Ne.symm h]

theorem cut?_singleton_cons {q c : Char} (h : c ≠ q) (s : List Char) :
    cut? [q] (c :: s) = (cut? [q] s).map fun ab => (c :: ab.1, ab.2) :=
  cut?_cons_of_strip? (strip?_singleton_eq_none h s)

/-- A text is cut at the first character that it is searched for. -/
theorem cut?_singleton_append {q : Char} {s : List Char} (h : q ∉ s) (t : List Char) :
    cut? [q] (s ++ q :: t) = some (s, t) := by
  induction s with
  | nil => exact cut?_singleton_cons_self q t
  | cons c s ih =>
    rw [List.mem_cons, not_or] at h
    rw [List.cons_append, cut?_singleton_cons (Ne.symm h.1), ih h.2]
    rfl

theorem split_singleton_cons {q c : Char} (h : c ≠ q) (s : List Char) :
    ∃ x xs, split [q] s = x :: xs ∧ split [q] (c :: s) = (c :: x) :: xs :=
  split_cons_of_strip? (strip?_singleton_eq_none h s)

theorem join_cons_cons (p : List Char) (c : Char) (x : List Char) (xs : List (List Char)) :
    join p ((c :: x) :: xs) = c :: join p (x :: xs) := by
  cases xs <;> simp [join]

/-- A single character is replaced wherever it stands. -/
theorem replace_singleton (q : Char) (r s : List Char) :
    replace [q] r s = s.flatMap fun c => if c = q then r else [c] := by
  induction s with
  | nil => simp [replace, split_nil, join]
  | cons c s ih =>
    by_cases h : c = q
    · subst h
      obtain ⟨x, xs, hx⟩ := List.exists_cons_of_ne_nil (split_ne_nil [c] s)
      rw [replace, split_of_cut?_eq_some (List.cons_ne_nil c []) (cut?_singleton_cons_self c s), hx, join, ← hx,
        ← replace, ih]
      simp
    · obtain ⟨x, xs, hx, hcx⟩ := split_singleton_cons h s
      rw [replace, hcx, join_cons_cons, ← hx, ← replace, ih]
      simp [h]

end SampleRecorder.Text
