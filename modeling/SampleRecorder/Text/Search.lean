/-!
# Searching, splitting and replacing

Occurrences of a fixed text inside another, found from left to right without overlap.  The key facts: cutting at the
first occurrence loses nothing (`eq_of_cut?_eq_some`), so the second part is shorter whenever the separator is not
empty, and joining the pieces of a split with the separator gives the text back (`join_split`).
-/

namespace SampleRecorder.Text

/-- What follows `p` in `s`, when `s` begins with `p`. -/
def strip? : List Char → List Char → Option (List Char)
  | [], s => some s
  | _ :: _, [] => none
  | a :: p, b :: s => if a = b then strip? p s else none

theorem strip?_eq_some_iff {p s r : List Char} : strip? p s = some r ↔ s = p ++ r := by
  induction p generalizing s with
  | nil => simp [strip?]
  | cons a p ih =>
    cases s with
    | nil => simp [strip?]
    | cons b s =>
      by_cases h : a = b
      · simp [strip?, h, ih]
      · simp only [strip?, h, ↓reduceIte, List.cons_append, List.cons.injEq]
        exact ⟨nofun, fun e => absurd e.1.symm h⟩

/-- Looks for `p` from left to right; `seen` is the text already passed, last character first. -/
def cutFrom? (p seen : List Char) : List Char → Option (List Char × List Char)
  | [] => if p = [] then some (seen.reverse, []) else none
  | c :: s =>
    match strip? p (c :: s) with
    | some r => some (seen.reverse, r)
    | none => cutFrom? p (c :: seen) s

/-- The texts before and after the first occurrence of `p` in `s`. -/
def cut? (p s : List Char) : Option (List Char × List Char) :=
  cutFrom? p [] s

theorem eq_of_cutFrom?_eq_some {p seen s a b : List Char} (h : cutFrom? p seen s = some (a, b)) :
    seen.reverse ++ s = a ++ p ++ b := by
  induction s generalizing seen with
  | nil =>
    unfold cutFrom? at h
    split at h
    · simp_all
    · cases h
  | cons c s ih =>
    unfold cutFrom? at h
    split at h
    · next r hr =>
      cases h
      rw [strip?_eq_some_iff.1 hr, List.append_assoc]
    · simpa using ih h

/-- The two parts around an occurrence make up the text with it. -/
theorem eq_of_cut?_eq_some {p s a b : List Char} (h : cut? p s = some (a, b)) : s = a ++ p ++ b := by
  simpa using eq_of_cutFrom?_eq_some h

theorem length_lt_of_cut? {p s a b : List Char} (hp : p ≠ []) (h : cut? p s = some (a, b)) :
    b.length < s.length := by
  have := List.length_pos_iff.2 hp
  rw [eq_of_cut?_eq_some h]
  simp
  omega

/-- The pieces of `s` between the occurrences of `p`; an empty `p` does not split. -/
def split (p s : List Char) : List (List Char) :=
  if hp : p = [] then [s]
  else
    match h : cut? p s with
    | some (a, b) =>
      have : b.length < s.length := length_lt_of_cut? hp h
      a :: split p b
    | none => [s]
termination_by s.length

/-- Pieces put together with `p` between them. -/
def join (p : List Char) : List (List Char) → List Char
  | [] => []
  | [a] => a
  | a :: b :: rest => a ++ p ++ join p (b :: rest)

theorem split_ne_nil (p s : List Char) : split p s ≠ [] := by
  unfold split
  split
  · simp
  · split <;> simp

/-- Joining the pieces of a split with the same separator gives the text back. -/
theorem join_split (p s : List Char) : join p (split p s) = s := by
  fun_induction split p s with
  | case1 s => rfl
  | case2 s hp a b h hlt ih =>
    obtain ⟨x, xs, hx⟩ := List.exists_cons_of_ne_nil (split_ne_nil p b)
    rw [hx] at ih ⊢
    rw [join, ih, eq_of_cut?_eq_some h]
  | case3 s hp h => rfl

/-- Whether `p` occurs in `s`. -/
def contains (p s : List Char) : Bool :=
  (cut? p s).isSome

/-- Whether `s` begins with `p`. -/
def startsWith (p s : List Char) : Bool :=
  (strip? p s).isSome

/-- Whether `s` ends with `p`. -/
def endsWith (p s : List Char) : Bool :=
  (strip? p.reverse s.reverse).isSome

/-- The number of occurrences of `p` in `s`, from left to right without overlap. -/
def count (p s : List Char) : Nat :=
  (split p s).length - 1

/-- Every occurrence of `p` in `s`, from left to right without overlap, replaced by `q`. -/
def replace (p q s : List Char) : List Char :=
  join q (split p s)

end SampleRecorder.Text
