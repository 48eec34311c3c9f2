import SampleRecorder.Proofs.Text.Size

/-!
# Replacing from left to right

`Replaces old new s t n` says what it means to go through a text from left to right and to write another text for each
occurrence that is met.  It determines the new text and the number of occurrences, and they are those that `replace` and
`count` give (`replaces_iff`).  The sizes of the two texts differ by what the occurrences take up
(`Replaces.bytes`).
-/

namespace SampleRecorder.Text

/-- Whether `t` is what comes of `s` when `new` is written for each of the `n` occurrences of `old` that are met. -/
inductive Replaces (old new : List Char) : List Char → List Char → Nat → Prop
  | nil : Replaces old new [] [] 0
  | occurrence {s t : List Char} {n : Nat} (h : Replaces old new s t n) : Replaces old new (old ++ s) (new ++ t) (n + 1)
  | character {c : Char} {s t : List Char} {n : Nat} (hc : ¬old <+: c :: s) (h : Replaces old new s t n) :
    Replaces old new (c :: s) (c :: t) n

variable {old new s t : List Char} {n : Nat}

/-! ### One step of a replacement -/

theorem split_append_self (hold : old ≠ []) (s : List Char) : split old (old ++ s) = [] :: split old s :=
  split_of_cut?_eq_some hold (cut?_append_self hold s)

theorem replace_append_self (hold : old ≠ []) (new s : List Char) :
    replace old new (old ++ s) = new ++ replace old new s := by
  obtain ⟨x, xs, hx⟩ := List.exists_cons_of_ne_nil (split_ne_nil old s)
  rw [replace, replace, split_append_self hold, hx, join, List.nil_append]

/-- There is one piece more than there are occurrences. -/
theorem length_split (p s : List Char) : (split p s).length = count p s + 1 := by
  have hpos : 0 < (split p s).length := List.length_pos_iff.mpr (split_ne_nil p s)
  rw [count]
  omega

theorem count_append_self (hold : old ≠ []) (s : List Char) : count old (old ++ s) = count old s + 1 := by
  rw [count, split_append_self hold, List.length_cons, length_split]
  rfl

theorem strip?_eq_none_of_not_isPrefix (h : ¬old <+: s) : strip? old s = none := by
  cases hs : strip? old s with
  | none => rfl
  | some r => exact absurd ⟨r, (strip?_eq_some_iff.mp hs).symm⟩ h

theorem replace_cons (new : List Char) {c : Char} (h : ¬old <+: c :: s) :
    replace old new (c :: s) = c :: replace old new s := by
  obtain ⟨x, xs, hs, hcs⟩ := split_cons_of_strip? (strip?_eq_none_of_not_isPrefix h)
  rw [replace, replace, hs, hcs, join_cons_cons]

theorem count_cons {c : Char} (h : ¬old <+: c :: s) : count old (c :: s) = count old s := by
  obtain ⟨x, xs, hs, hcs⟩ := split_cons_of_strip? (strip?_eq_none_of_not_isPrefix h)
  rw [count, count, hs, hcs, List.length_cons, List.length_cons]

/-! ### Texts without a part in any occurrence -/

/-- A text that has no character in common with another one is passed over by a search for it. -/
theorem not_isPrefix_of_disjoint (hold : old ≠ []) {c : Char} (hc : c ∉ old) (s : List Char) : ¬old <+: c :: s := by
  obtain ⟨a, p, rfl⟩ := List.exists_cons_of_ne_nil hold
  intro h
  obtain ⟨rfl, -⟩ := List.cons_prefix_cons.mp h
  exact hc List.mem_cons_self

theorem replace_append_of_disjoint (hold : old ≠ []) (new : List Char) {v : List Char} (hv : ∀ c ∈ v, c ∉ old)
    (s : List Char) : replace old new (v ++ s) = v ++ replace old new s := by
  induction v with
  | nil => rfl
  | cons c v ih =>
    obtain ⟨hc, hv⟩ := List.forall_mem_cons.mp hv
    rw [List.cons_append, replace_cons new (not_isPrefix_of_disjoint hold hc _), ih hv, List.cons_append]

/-- Every occurrence lies in front of such a text or behind it. -/
theorem replace_around (hold : old ≠ []) (new : List Char) {v : List Char} (hne : v ≠ []) (hv : ∀ c ∈ v, c ∉ old)
    (a b : List Char) : replace old new (a ++ (v ++ b)) = replace old new a ++ (v ++ replace old new b) := by
  induction hlen : a.length using Nat.strongRecOn generalizing a with
  | ind k ih =>
    by_cases hprefix : old <+: a
    · obtain ⟨r, rfl⟩ := hprefix
      have hpos := List.length_pos_iff.mpr hold
      rw [List.length_append] at hlen
      rw [List.append_assoc, replace_append_self hold, replace_append_self hold, ih r.length (by omega) r rfl,
        List.append_assoc]
    · have hnone : ¬old <+: a ++ (v ++ b) := by
        intro h
        -- an occurrence that is longer than `a` would take a character of `v`
        rcases List.prefix_or_prefix_of_prefix h (List.prefix_append a (v ++ b)) with hold' | ⟨r, rfl⟩
        · exact hprefix hold'
        · obtain ⟨c, v, rfl⟩ := List.exists_cons_of_ne_nil hne
          rw [List.prefix_append_right_inj] at h
          cases r with
          | nil => exact hprefix ⟨[], by simp⟩
          | cons d r =>
            obtain ⟨rfl, -⟩ := List.cons_prefix_cons.mp h
            exact hv d List.mem_cons_self (by simp)
      cases a with
      | nil =>
        rw [List.nil_append, replace_append_of_disjoint hold new hv, replace, replace, split_nil hold]
        rfl
      | cons c a =>
        rw [List.length_cons] at hlen
        rw [List.cons_append] at hnone ⊢
        rw [replace_cons new hnone, replace_cons new hprefix, ih a.length (by omega) a rfl, List.cons_append]

/-! ### Replacements -/

theorem replaces_replace (hold : old ≠ []) (new s : List Char) :
    Replaces old new s (replace old new s) (count old s) := by
  induction hlen : s.length using Nat.strongRecOn generalizing s with
  | ind k ih =>
    by_cases hprefix : old <+: s
    · obtain ⟨r, rfl⟩ := hprefix
      have hpos := List.length_pos_iff.mpr hold
      rw [List.length_append] at hlen
      rw [replace_append_self hold, count_append_self hold]
      exact .occurrence (ih r.length (by omega) r rfl)
    · cases s with
      | nil =>
        rw [replace, count, split_nil hold]
        exact .nil
      | cons c s =>
        rw [List.length_cons] at hlen
        rw [replace_cons new hprefix, count_cons hprefix]
        exact .character hprefix (ih s.length (by omega) s rfl)

theorem replaces_iff (hold : old ≠ []) : Replaces old new s t n ↔ t = replace old new s ∧ n = count old s := by
  constructor
  · intro h
    induction h with
    | nil =>
      rw [replace, count, split_nil hold]
      exact ⟨rfl, rfl⟩
    | occurrence _ ih =>
      rw [replace_append_self hold, count_append_self hold, ← ih.1, ← ih.2]
      exact ⟨rfl, rfl⟩
    | character hc _ ih =>
      rw [replace_cons new hc, count_cons hc, ← ih.1]
      exact ⟨rfl, ih.2⟩
  · rintro ⟨rfl, rfl⟩
    exact replaces_replace hold new s

/-- There are no more occurrences than characters. -/
theorem Replaces.count_le (hold : old ≠ []) (h : Replaces old new s t n) : n ≤ s.length := by
  induction h with
  | nil => exact Nat.le_refl 0
  | occurrence _ ih =>
    have hpos := List.length_pos_iff.mpr hold
    rw [List.length_append]
    omega
  | character _ _ ih => exact Nat.le_trans ih (Nat.le_succ _)

/-- What the occurrences take up before and after. -/
theorem Replaces.bytes (h : Replaces old new s t n) :
    Text.bytes t + n * Text.bytes old = Text.bytes s + n * Text.bytes new := by
  induction h with
  | nil => simp
  | occurrence _ ih =>
    rw [bytes_append, bytes_append, Nat.succ_mul, Nat.succ_mul]
    omega
  | character _ _ ih =>
    rw [bytes_cons, bytes_cons]
    omega

/-- A text of one character over and over is nothing but occurrences of it. -/
theorem replaces_replicate (c d : Char) (n : Nat) :
    Replaces [c] [d] (List.replicate n c) (List.replicate n d) n := by
  induction n with
  | zero => exact .nil
  | succ n ih => exact .occurrence ih

end SampleRecorder.Text
