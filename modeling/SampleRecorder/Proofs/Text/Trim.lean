import SampleRecorder.Proofs.Text.Run
import SampleRecorder.Proofs.Text.Split

/-!
# White space around separated text

What cutting off the white space around a text does to its pieces between separators.  A separator that stands in that
white space is lost, and a piece with it; otherwise the pieces stay the same up to white space around them.  Both cases
are told apart by the outer pieces and by the ends of the separator (`map_trim_split_trim_iff`).
-/

namespace SampleRecorder.Text

variable {p s piece : List Char}

/-! ### Trimming -/

theorem stops_reverse_trim (s : List Char) : Stops isBlank (trim s).reverse := by
  rw [trim, List.reverse_reverse]
  exact stops_dropWhile isBlank _

theorem stops_trim (s : List Char) : Stops isBlank (trim s) := by
  -- a trimmed text begins like the text without the white space in front
  have hprefix : trim s <+: s.dropWhile isBlank := by
    rw [trim, ← List.reverse_suffix, List.reverse_reverse]
    exact List.dropWhile_suffix isBlank
  obtain ⟨rest, hrest⟩ := hprefix
  intro c hc
  refine stops_dropWhile isBlank s c ?_
  rw [← hrest, List.head?_append, Option.mem_def.mp hc]
  rfl

@[simp] theorem trim_trim (s : List Char) : trim (trim s) = trim s :=
  trim_of_ends (stops_trim s) (stops_reverse_trim s)

theorem trim_eq_nil_iff : trim s = [] ↔ ∀ c ∈ s, isBlank c = true := by
  rw [trim, List.reverse_eq_nil_iff, List.dropWhile_eq_nil_iff]
  constructor
  · intro h
    -- what is left behind the white space in front does not begin with white space
    cases hs : s.dropWhile isBlank with
    | nil => exact List.dropWhile_eq_nil_iff.mp hs
    | cons c rest =>
      have hblank : isBlank c = true := h c (by simp [hs])
      have hstop := stops_dropWhile isBlank s
      rw [hs, stops_cons, hblank] at hstop
      cases hstop
  · intro h c hc
    exact h c ((List.dropWhile_suffix isBlank).subset (List.mem_reverse.mp hc))

theorem trim_append_left {a : List Char} (ha : ∀ c ∈ a, isBlank c = true) (s : List Char) : trim (a ++ s) = trim s := by
  rw [trim, List.dropWhile_append_of_pos ha, trim]

theorem trim_append_right {b : List Char} (hb : ∀ c ∈ b, isBlank c = true) (s : List Char) :
    trim (s ++ b) = trim s := by
  have hb' : ∀ c ∈ b.reverse, isBlank c = true := fun c hc => hb c (List.mem_reverse.mp hc)
  rw [trim, trim, List.dropWhile_append]
  split
  · next h => rw [List.isEmpty_iff.mp h, List.dropWhile_eq_nil_iff.mpr hb]
  · rw [List.reverse_append, List.dropWhile_append_of_pos hb']

/-- A text is its trimming between two runs of white space. -/
theorem exists_eq_append_trim (s : List Char) :
    ∃ a b, s = a ++ (trim s ++ b) ∧ (∀ c ∈ a, isBlank c = true) ∧ ∀ c ∈ b, isBlank c = true := by
  refine ⟨s.takeWhile isBlank, ((s.dropWhile isBlank).reverse.takeWhile isBlank).reverse, ?_, ?_, ?_⟩
  · rw [trim, ← List.reverse_append, List.takeWhile_append_dropWhile, List.reverse_reverse,
      List.takeWhile_append_dropWhile]
  · exact fun c hc => List.mem_takeWhile_imp hc
  · exact fun c hc => List.mem_takeWhile_imp (List.mem_reverse.mp hc)

/-! ### Occurrences of a separator -/

theorem strip?_append_self (p s : List Char) : strip? p (p ++ s) = some s :=
  strip?_eq_some_iff.mpr rfl

/-- A text with an occurrence is cut. -/
theorem cut?_ne_none (u p v : List Char) : cut? p (u ++ p ++ v) ≠ none := by
  induction u with
  | nil =>
    rw [List.nil_append]
    cases hs : p ++ v with
    | nil => simp [cut?, cutFrom?, (List.append_eq_nil_iff.mp hs).1]
    | cons c rest => simp [cut?, cutFrom?, ← hs, strip?_append_self]
  | cons c u ih =>
    rw [List.cons_append, List.cons_append, cut?, cutFrom?]
    cases strip? p (c :: (u ++ p ++ v)) with
    | some r => simp
    | none =>
      dsimp only
      rw [cutFrom?_eq_map, ne_eq, Option.map_eq_none_iff]
      exact ih

theorem cut?_eq_none_iff : cut? p s = none ↔ ¬p <:+: s := by
  constructor
  · rintro h ⟨u, v, rfl⟩
    exact cut?_ne_none u p v h
  · intro h
    cases hcut : cut? p s with
    | none => rfl
    | some ab => exact absurd ⟨ab.1, ab.2, (eq_of_cut?_eq_some hcut).symm⟩ h

/-- What stands in front of the first occurrence holds none, and neither does what is left at last. -/
theorem cut?_of_mem_split (hp : p ≠ []) (h : piece ∈ split p s) : cut? p piece = none := by
  fun_induction split p s with
  | case1 s hempty => exact absurd hempty hp
  | case2 s hp a b hcut hlt ih =>
    rcases List.mem_cons.mp h with rfl | h
    · cases hfirst : cut? p piece with
      | none => rfl
      | some xy =>
        -- an occurrence within the piece would have come first
        have happend := cut?_append hfirst (p ++ b)
        rw [← List.append_assoc, ← eq_of_cut?_eq_some hcut, hcut] at happend
        have hshorter := congrArg List.length (eq_of_cut?_eq_some hfirst)
        rw [(Prod.mk.inj (Option.some.inj happend)).1] at hshorter
        have hpos := List.length_pos_iff.mpr hp
        simp only [List.length_append] at hshorter
        omega
    · exact ih h
  | case3 s hp hcut => rwa [List.mem_singleton.mp h]

/-- No separator is left in the last piece. -/
theorem cut?_lastPiece (hp : p ≠ []) (s : List Char) : cut? p (lastPiece p s) = none :=
  cut?_of_mem_split hp (List.mem_of_getLast? (getLast?_split p s))

theorem lastPiece_suffix (p s : List Char) : lastPiece p s <:+ s := by
  fun_induction split p s with
  | case1 s h => simp [lastPiece, split_empty, h]
  | case2 s hp a b h hlt ih =>
    rw [lastPiece_of_cut?_eq_some hp h, eq_of_cut?_eq_some h]
    exact ih.trans (List.suffix_append _ _)
  | case3 s hp h => exact (lastPiece_of_cut?_eq_none h).symm ▸ List.suffix_rfl

/-- The last of several pieces stands behind a separator. -/
theorem append_lastPiece_suffix (h : 1 < (split p s).length) : p ++ lastPiece p s <:+ s := by
  fun_induction split p s with
  | case1 s hp => simp at h
  | case2 s hp a b hcut hlt ih =>
    have hb : p ++ b <:+ s := by
      rw [eq_of_cut?_eq_some hcut, List.append_assoc]
      exact List.suffix_append a _
    rw [lastPiece_of_cut?_eq_some hp hcut]
    cases hmore : cut? p b with
    | none => rwa [lastPiece_of_cut?_eq_none hmore]
    | some ab =>
      have hlength : 1 < (split p b).length := by
        rw [split_of_cut?_eq_some hp hmore, List.length_cons]
        exact Nat.lt_add_of_pos_left (List.length_pos_of_ne_nil (split_ne_nil p ab.2))
      exact (ih hlength).trans ((List.suffix_append p b).trans hb)
  | case3 s hp hcut => simp at h

/-! ### Pieces of a trimmed text -/

/-- White space in front of a text changes the first piece alone, if no separator begins with it or something other than
white space stands in the first piece. -/
theorem map_trim_split_append_left (hp : p ≠ []) {a : List Char} (ha : ∀ c ∈ a, isBlank c = true)
    (h : Stops isBlank p ∨ ∀ x ∈ (split p (a ++ s)).head?, trim x ≠ []) :
    (split p (a ++ s)).map trim = (split p s).map trim := by
  induction a with
  | nil => rfl
  | cons c a ih =>
    obtain ⟨hc, ha⟩ := List.forall_mem_cons.mp ha
    have hc' : ∀ d ∈ [c], isBlank d = true := by simpa using hc
    have hstrip : strip? p (c :: (a ++ s)) = none := by
      cases hr : strip? p (c :: (a ++ s)) with
      | none => rfl
      | some r =>
        rcases h with h | h
        · -- the separator begins with the same character
          obtain ⟨d, q, rfl⟩ := List.exists_cons_of_ne_nil hp
          have hd := (List.cons.inj (strip?_eq_some_iff.mp hr)).1
          rw [stops_cons, ← hd, hc] at h
          cases h
        · -- the first piece is empty
          have hcut : cut? p (c :: (a ++ s)) = some ([], r) := by rw [cut?, cutFrom?, hr]; rfl
          rw [List.cons_append, split_of_cut?_eq_some hp hcut] at h
          exact absurd rfl (h [] rfl)
    obtain ⟨x, xs, hx, hcx⟩ := split_cons_of_strip? hstrip
    have htrim : trim (c :: x) = trim x := trim_append_left hc' x
    rw [List.cons_append, hcx] at h
    rw [← ih ha, List.cons_append, hcx, hx, List.map_cons, List.map_cons, htrim]
    refine h.imp_right fun h y hy => ?_
    rw [hx, List.head?_cons, Option.mem_some_iff] at hy
    rw [← hy, ← htrim]
    exact h (c :: x) rfl

/-- White space behind the last piece completes no separator, if no separator ends with it or something other than white
space stands in the last piece. -/
theorem cut?_lastPiece_append (hp : p ≠ []) {b : List Char} (hb : ∀ c ∈ b, isBlank c = true)
    (h : Stops isBlank p.reverse ∨ trim (lastPiece p (s ++ b)) ≠ []) : cut? p (lastPiece p s ++ b) = none := by
  cases hcut : cut? p (lastPiece p s ++ b) with
  | none => rfl
  | some uv =>
    obtain ⟨u, v⟩ := uv
    rcases List.append_eq_append_iff.mp (eq_of_cut?_eq_some hcut) with ⟨w, huw, hwv⟩ | ⟨w, hlast, -⟩
    · -- the separator reaches into the white space
      have hw : w ≠ [] := by
        rintro rfl
        refine cut?_ne_none u p [] ?_
        rw [List.append_nil, huw, List.append_nil]
        exact cut?_lastPiece hp s
      rcases h with h | h
      · have hlast : p.getLast hp = w.getLast hw := by
          have := congrArg List.getLast? huw
          rwa [List.getLast?_append_of_ne_nil _ hp, List.getLast?_append_of_ne_nil _ hw,
            List.getLast?_eq_some_getLast hp, List.getLast?_eq_some_getLast hw, Option.some.injEq] at this
        have hstop : isBlank (p.getLast hp) = false :=
          h _ (by rw [List.head?_reverse]; exact List.getLast?_eq_some_getLast hp)
        have hblank : isBlank (w.getLast hw) = true := hb _ (by rw [hwv]; simp)
        rw [hlast, hblank] at hstop
        cases hstop
      · refine absurd (trim_eq_nil_iff.mpr fun c hc => ?_) h
        -- what follows the separator is white space
        rw [lastPiece_append, lastPiece_of_cut?_eq_some hp hcut] at hc
        refine hb c ?_
        rw [hwv]
        exact List.mem_append_right w ((lastPiece_suffix p v).subset hc)
    · refine absurd (cut?_lastPiece hp s) ?_
      rw [hlast]
      exact cut?_ne_none u p w

/-- White space behind a text changes the last piece alone, under the same condition. -/
theorem map_trim_split_append_right (hp : p ≠ []) {b : List Char} (hb : ∀ c ∈ b, isBlank c = true)
    (h : Stops isBlank p.reverse ∨ trim (lastPiece p (s ++ b)) ≠ []) :
    (split p (s ++ b)).map trim = (split p s).map trim := by
  have hpieces : split p s = (split p s).dropLast ++ [lastPiece p s] :=
    (List.dropLast_append_getLast? _ (getLast?_split p s)).symm
  rw [split_append, split_of_cut?_eq_none (cut?_lastPiece_append hp hb h), List.map_append, List.map_singleton,
    trim_append_right hb, ← List.map_singleton, ← List.map_append, ← hpieces]

/-- Whether no separator can stand in the white space around a text: the separator does not begin with white space, or
the first piece is not blank, and likewise at the end. -/
def Spares (p s : List Char) : Prop :=
  (Stops isBlank p ∨ ∀ x ∈ (split p s).head?, trim x ≠ []) ∧
    (Stops isBlank p.reverse ∨ ∀ x ∈ (split p s).getLast?, trim x ≠ [])

theorem map_trim_split_trim (hp : p ≠ []) (h : Spares p s) : (split p (trim s)).map trim = (split p s).map trim := by
  obtain ⟨a, b, hs, ha, hb⟩ := exists_eq_append_trim s
  have hleft : (split p (a ++ (trim s ++ b))).map trim = (split p (trim s ++ b)).map trim := by
    refine map_trim_split_append_left hp ha ?_
    rw [← hs]
    exact h.1
  have hright : (split p (trim s ++ b)).map trim = (split p (trim s)).map trim := by
    refine map_trim_split_append_right hp hb (h.2.imp_right fun h => ?_)
    -- the last pieces with and without the white space in front are the same up to white space
    have hlast := congrArg List.getLast? hleft
    rw [← hs, List.getLast?_map, List.getLast?_map, getLast?_split, getLast?_split, Option.map_some, Option.map_some,
      Option.some.injEq] at hlast
    rw [← hlast]
    exact h _ (getLast?_split p s)
  rw [← hright, ← hleft, ← hs]

/-- A separator in the white space at the start of a text is lost with it, and the first piece is another one. -/
theorem head_spares (hp : p ≠ []) (hmany : 1 < (split p s).length)
    (h : (split p (trim s)).map trim = (split p s).map trim) :
    Stops isBlank p ∨ ∀ x ∈ (split p s).head?, trim x ≠ [] := by
  refine or_iff_not_imp_left.mpr fun hstops x hx hblank => ?_
  have hhead := congrArg List.head? h
  rw [List.head?_map, List.head?_map, Option.mem_def.mp hx, Option.map_some, hblank] at hhead
  cases ht : trim s with
  | nil =>
    have hlength := congrArg List.length h
    rw [ht, split_nil hp, List.length_map, List.length_map, List.length_singleton] at hlength
    omega
  | cons c r =>
    have hc : isBlank c = false := by
      have := stops_trim s
      rwa [ht, stops_cons] at this
    obtain ⟨d, q, rfl⟩ := List.exists_cons_of_ne_nil hp
    have hstrip : strip? (d :: q) (c :: r) = none := by
      rw [strip?, if_neg]
      rintro rfl
      exact hstops (stops_cons.mpr hc)
    obtain ⟨y, ys, -, hy⟩ := split_cons_of_strip? hstrip
    rw [ht, hy, List.head?_cons, Option.map_some, Option.some.injEq, trim_eq_nil_iff] at hhead
    rw [hhead c List.mem_cons_self] at hc
    cases hc

/-- A separator in the white space at the end of a text is lost with it, and the last piece is another one. -/
theorem last_spares (hmany : 1 < (split p s).length)
    (h : (split p (trim s)).map trim = (split p s).map trim) :
    Stops isBlank p.reverse ∨ ∀ x ∈ (split p s).getLast?, trim x ≠ [] := by
  refine or_iff_not_imp_left.mpr fun hstops x hx hblank => hstops ?_
  have hlength := congrArg List.length h
  rw [List.length_map, List.length_map] at hlength
  have hlast := congrArg List.getLast? h
  rw [List.getLast?_map, List.getLast?_map, Option.mem_def.mp hx, getLast?_split, Option.map_some, Option.map_some,
    hblank, Option.some.injEq, trim_eq_nil_iff] at hlast
  have hsuffix : p ++ lastPiece p (trim s) <:+ trim s := append_lastPiece_suffix (by omega)
  obtain ⟨front, hfront⟩ := hsuffix
  have hstop := stops_reverse_trim s
  rw [← hfront, List.reverse_append, List.reverse_append] at hstop
  -- the last piece is blank, and what it ends with is not
  cases hl : (lastPiece p (trim s)).reverse with
  | nil =>
    rw [hl, List.nil_append] at hstop
    intro c hc
    refine hstop c ?_
    rw [List.head?_append, Option.mem_def.mp hc]
    rfl
  | cons c rest =>
    have hc : isBlank c = true := hlast c (List.mem_reverse.mp (hl ▸ List.mem_cons_self))
    rw [hl, List.cons_append, List.cons_append, stops_cons, hc] at hstop
    cases hstop

/-- Cutting off the white space around a text with a separator leaves its pieces as they are, up to white space around
them, exactly if no separator can stand in what is cut off. -/
theorem map_trim_split_trim_iff (hp : p ≠ []) (hmany : 1 < (split p s).length) :
    (split p (trim s)).map trim = (split p s).map trim ↔ Spares p s :=
  ⟨fun h => ⟨head_spares hp hmany h, last_spares hmany h⟩, map_trim_split_trim hp⟩

end SampleRecorder.Text
