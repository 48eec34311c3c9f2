import SampleRecorder.Json.Decode
import SampleRecorder.Proofs.Number.Digits
import SampleRecorder.Proofs.Text.Run

/-!
# Reading back what is written

The reader undoes the printer: the indented text of a value reads as the tree of that value, with nothing broken and
nothing behind it (`read_pretty`).  Numbers are the only exception: floating-point ones are left out, and integers
must fit into 64 bits, as beyond them the reader takes a floating-point number.
-/

namespace SampleRecorder.Json

mutual

/-- Whether all numbers of a value are integers of 64 bits, signed or unsigned. -/
def IsExact : Json → Prop
  | float _ => False
  | int n => -9223372036854775808 ≤ n ∧ n < Raw.wordLimit
  | arr items => AreExact items
  | obj members => MembersExact members
  | null | bool _ | str _ => True

/-- Whether this holds of all items of an array. -/
def AreExact : List Json → Prop
  | [] => True
  | a :: rest => IsExact a ∧ AreExact rest

/-- Whether this holds of all members of an object. -/
def MembersExact : List (String × Json) → Prop
  | [] => True
  | (_, v) :: rest => IsExact v ∧ MembersExact rest

end

namespace Raw

mutual

/-- The tree that the text of a value reads as. -/
def ofJson : Json → Raw
  | .null => null
  | .bool b => bool b
  | .int n => number (.ok (.int n))
  | .float x => number (.ok (.float x))
  | .str s => str (.ok s)
  | .arr items => arr (ofItems items) none
  | .obj members => obj (ofMembers members) none

/-- The trees of the items of an array. -/
def ofItems : List Json → List Raw
  | [] => []
  | a :: rest => ofJson a :: ofItems rest

/-- The keys and trees of the members of an object. -/
def ofMembers : List (String × Json) → List (Except Cause String × Raw)
  | [] => []
  | (k, v) :: rest => (.ok k, ofJson v) :: ofMembers rest

end

/-! ### Blanks -/

theorem skip_newLine (depth : Nat) (s : List Char) : skip (newLine depth ++ s) = skip s := by
  have hblanks (n : Nat) : skip (List.replicate n ' ' ++ s) = skip s := by
    induction n with
    | zero => rfl
    | succ n ih => exact ih
  exact hblanks (2 * depth)

/-! ### Texts -/

theorem hex?_hexDigit {n : Nat} (h : n < 16) : hex? (hexDigit n) = some n := by
  have hall : ∀ k < 16, hex? (hexDigit k) = some k := by decide
  exact hall n h

theorem utf8Size_hexDigit {n : Nat} (h : n < 16) : (hexDigit n).utf8Size = 1 := by
  have hall : ∀ k < 16, (hexDigit k).utf8Size = 1 := by decide
  exact hall n h

theorem fourHex_hexDigit {n : Nat} (h : n < 256) (s : List Char) :
    fourHex ('0' :: '0' :: hexDigit (n / 16) :: hexDigit (n % 16) :: s) = .ok (n, s) := by
  have hsize : hasFourBytes ('0' :: '0' :: hexDigit (n / 16) :: hexDigit (n % 16) :: s) = true := by
    have hzero : '0'.utf8Size = 1 := by decide
    simp [hasFourBytes, hzero, utf8Size_hexDigit (n := n / 16) (by omega),
      utf8Size_hexDigit (n := n % 16) (by omega)]
  have hzero : hex? '0' = some 0 := by decide
  simp only [fourHex, hsize, hzero, hex?_hexDigit (n := n / 16) (by omega), hex?_hexDigit (n := n % 16) (by omega)]
  simp only [Bool.not_true, Bool.false_eq_true, ↓reduceIte, Nat.mul_zero, Nat.zero_add, Except.ok.injEq, Prod.mk.injEq,
    and_true]
  omega

/-- A character as it is escaped reads as that character. -/
theorem literal_escape (fuel : Nat) (l : Literal) (c : Char) (s : List Char) :
    literal (fuel + 1) l (escape c ++ s) = literal fuel (l.push c) s := by
  unfold escape
  -- seven characters have an escape of their own, the other low ones are written by their number
  split
  · next h => subst h; rfl
  split
  · next h => subst h; rfl
  split
  · next h => subst h; rfl
  split
  · next h => subst h; rfl
  split
  · next h => subst h; rfl
  split
  · next h => subst h; rfl
  split
  · next h => subst h; rfl
  split
  · next h =>
    have hunit : unit l c.toNat s = .ok (l.push c, s) := by
      unfold unit
      rw [if_neg (by simp; omega), if_neg (by simp; omega), Char.ofNat_toNat]
    simp only [List.cons_append, List.nil_append, literal, Char.reduceEq, ↓reduceIte,
      fourHex_hexDigit (n := c.toNat) (by omega), hunit]
    rfl
  · next hquote hslash _ _ _ _ _ hlow =>
    rw [List.singleton_append, literal.eq_def]
    simp only [hquote, hslash, hlow, ↓reduceIte]

theorem literal_flatMap_escape (fuel : Nat) (l : Literal) (s rest : List Char) (h : s.length < fuel) :
    literal fuel l (s.flatMap escape ++ '"' :: rest) = .ok ({ l with chars := s.reverse ++ l.chars }, rest) := by
  induction s generalizing fuel l with
  | nil =>
    obtain ⟨fuel, rfl⟩ := Nat.exists_eq_add_of_lt h
    rfl
  | cons c s ih =>
    obtain ⟨fuel, rfl⟩ : ∃ k, fuel = k + 1 := ⟨fuel - 1, by simp at h; omega⟩
    rw [List.flatMap_cons, List.append_assoc, literal_escape, ih fuel (l.push c) (by simpa using h)]
    simp [Literal.push]

theorem length_le_flatMap_escape (s : List Char) : s.length ≤ (s.flatMap escape).length := by
  induction s with
  | nil => exact Nat.le_refl 0
  | cons c s ih =>
    have hone : 0 < (escape c).length := by
      unfold escape
      repeat' split
      all_goals simp
    rw [List.flatMap_cons, List.length_append, List.length_cons]
    omega

/-- A text reads back from behind its opening quote. -/
theorem literal_quote (s rest : List Char) :
    literal ((s.flatMap escape ++ '"' :: rest).length + 1) {} (s.flatMap escape ++ '"' :: rest) =
      .ok ({ chars := s.reverse }, rest) := by
  have hlen := length_le_flatMap_escape s
  rw [literal_flatMap_escape _ _ _ _ (by rw [List.length_append]; omega), List.append_nil]

theorem value_reverse (s : String) : Literal.value { chars := s.toList.reverse } = .ok s := by
  simp [Literal.value]

/-! ### Integers -/

/-- Whether a number that stands before a text ends there. -/
def Ends (rest : List Char) : Prop :=
  ∀ c ∈ rest.head?, c.isDigit = false ∧ c ≠ '.' ∧ c ≠ 'e' ∧ c ≠ 'E'

theorem le_foldl_digits (ds : List Char) (n : Nat) :
    n ≤ ds.foldl (fun n c => 10 * n + Number.digitValue c) n := by
  induction ds generalizing n with
  | nil => exact Nat.le_refl n
  | cons d ds ih =>
    have := ih (10 * n + Number.digitValue d)
    rw [List.foldl_cons]
    omega

/-- Digits that stay below the limit are all taken. -/
theorem significand_go (ds : List Char) (n used : Nat)
    (h : ds.foldl (fun n c => 10 * n + Number.digitValue c) n < wordLimit) :
    significand.go n used ds = (ds.foldl (fun n c => 10 * n + Number.digitValue c) n, used + ds.length, 0) := by
  induction ds generalizing n used with
  | nil => rfl
  | cons d ds ih =>
    rw [List.foldl_cons] at h ⊢
    have hle := le_foldl_digits ds (10 * n + Number.digitValue d)
    rw [significand.go, if_pos (by omega), ih _ _ h, List.length_cons]
    simp only [Prod.mk.injEq, true_and, and_true]
    omega

theorem numeric_digitsOf {n : Nat} (negative : Bool) (h : n < wordLimit) :
    numeric negative (Number.digitsOf n) [] none =
      if !negative then .ok (.int n)
      else if 0 < n && 2 * n ≤ wordLimit then .ok (.int (-(n : Int)))
      else .ok (.float (-(Float.ofNat n))) := by
  have hvalue : (Number.digitsOf n).foldl (fun n c => 10 * n + Number.digitValue c) 0 = n := Number.ofDigits_digitsOf n
  have hgo : significand 0 (Number.digitsOf n) = (n, (Number.digitsOf n).length, 0) := by
    rw [significand, significand_go _ _ _ (by rw [hvalue]; exact h), hvalue, Nat.zero_add]
  rw [numeric, hgo]
  rfl

theorem takeWhile_digits {ds rest : List Char} (hds : ∀ c ∈ ds, c.isDigit = true) (hr : Ends rest) :
    (ds ++ rest).takeWhile Char.isDigit = ds ∧ (ds ++ rest).dropWhile Char.isDigit = rest := by
  have hstops : Text.Stops Char.isDigit rest := fun c hc => (hr c hc).1
  exact ⟨Text.takeWhile_run hds hstops, Text.dropWhile_run hds hstops⟩

/-- The digits of an integer are read as a whole where nothing follows that a number could go on with. -/
theorem signedNumber_digitsOf (negative : Bool) (n : Nat) {rest : List Char} (hr : Ends rest) :
    signedNumber negative (Number.digitsOf n ++ rest) =
      .ok (numeric negative (Number.digitsOf n) [] none, rest) := by
  obtain ⟨hwhole, hrest⟩ := takeWhile_digits (fun c hc => Number.isDigit_of_mem_digitsOf (n := n) hc) hr
  have hempty : (Number.digitsOf n).isEmpty = false := by simpa using Number.digitsOf_ne_nil n
  have hzero : ((Number.digitsOf n).head? = some '0' && (Number.digitsOf n).length ≠ 1) = false := by
    simpa using Number.length_digitsOf_of_head? (n := n)
  rw [signedNumber, hwhole, hrest, hempty, hzero]
  cases rest with
  | nil => rfl
  | cons c rest =>
    obtain ⟨_, hpoint, he, hE⟩ := hr c rfl
    simp only [Bool.false_eq_true, ↓reduceIte]
    split
    · next h => exact absurd (List.cons.inj h).1 hpoint
    · dsimp only [bind, Except.bind]
      split
      · next h => exact absurd (List.cons.inj h).1 he
      · next h => exact absurd (List.cons.inj h).1 hE
      · rfl

theorem value_natural {fuel n : Nat} {s rest : List Char} (hn : n < wordLimit) (hr : Ends rest)
    (hs : skip s = Number.digitsOf n ++ rest) : value (fuel + 1) s = (number (.ok (.int n)), some rest) := by
  obtain ⟨c, ds, hc⟩ := List.exists_cons_of_ne_nil (Number.digitsOf_ne_nil n)
  have hdigit : c.isDigit = true := Number.isDigit_of_mem_digitsOf (n := n) (by simp [hc])
  have hnumber : signedNumber false (c :: (ds ++ rest)) = .ok (.ok (.int n), rest) := by
    rw [← List.cons_append, ← hc, signedNumber_digitsOf false n hr, numeric_digitsOf false hn]
    rfl
  rw [hc, List.cons_append] at hs
  rw [value, hs]
  -- no other value starts with a digit
  split
  · next h => cases h
  iterate 7
    · next h =>
      cases h
      exact absurd hdigit (by decide)
  · next h =>
    cases h
    rw [if_pos hdigit, hnumber]

theorem value_negative {fuel n : Nat} {s rest : List Char} (h0 : 0 < n) (hn : 2 * n ≤ wordLimit) (hr : Ends rest)
    (hs : skip s = '-' :: (Number.digitsOf n ++ rest)) :
    value (fuel + 1) s = (number (.ok (.int (-(n : Int)))), some rest) := by
  have hnumber : signedNumber true (Number.digitsOf n ++ rest) = .ok (.ok (.int (-(n : Int))), rest) := by
    rw [signedNumber_digitsOf true n hr, numeric_digitsOf true (by omega)]
    simp [h0, hn]
  rw [value, hs]
  simp only [hnumber]

theorem value_int {fuel : Nat} {n : Int} {s rest : List Char} (hn : IsExact (.int n)) (hr : Ends rest)
    (hs : skip s = Number.ofInt n ++ rest) : value (fuel + 1) s = (number (.ok (.int n)), some rest) := by
  simp only [IsExact, wordLimit] at hn
  unfold Number.ofInt at hs
  split at hs
  · next h =>
    have : value (fuel + 1) s = _ := value_negative (n := n.natAbs) (by omega) (by rw [wordLimit]; omega) hr hs
    rwa [show -(n.natAbs : Int) = n by omega] at this
  · next h =>
    have : value (fuel + 1) s = _ := value_natural (n := n.natAbs) (by rw [wordLimit]; omega) hr hs
    rwa [show (n.natAbs : Int) = n by omega] at this

/-! ### Values -/

/-- The text of a value starts with a character that is neither blank nor a closing bracket. -/
theorem prettyAt_eq_cons (depth : Nat) {j : Json} (hj : j.IsExact) :
    ∃ c cs, prettyAt depth j = c :: cs ∧ (∀ s, skip (c :: s) = c :: s) ∧ c ≠ ']' := by
  cases j with
  | null => exact ⟨_, _, rfl, fun _ => rfl, by decide⟩
  | bool b => cases b <;> exact ⟨_, _, rfl, fun _ => rfl, by decide⟩
  | float x => exact hj.elim
  | str s => exact ⟨_, _, rfl, fun _ => rfl, by decide⟩
  | arr items => cases items <;> exact ⟨_, _, rfl, fun _ => rfl, by decide⟩
  | obj members => cases members <;> exact ⟨_, _, rfl, fun _ => rfl, by decide⟩
  | int n =>
    obtain ⟨c, ds, hc⟩ := List.exists_cons_of_ne_nil (Number.digitsOf_ne_nil n.natAbs)
    have hdigit : c.isDigit = true := Number.isDigit_of_mem_digitsOf (n := n.natAbs) (by simp [hc])
    by_cases hn : n < 0
    · exact ⟨'-', Number.digitsOf n.natAbs, by simp [prettyAt, Number.ofInt, hn], fun _ => rfl, by decide⟩
    · refine ⟨c, ds, by simp [prettyAt, Number.ofInt, hn, hc], ?_, ?_⟩
      · have hblank : (c = ' ' || c = '\n' || c = '\t' || c = '\r') = false := by
          simp only [Bool.or_eq_false_iff, decide_eq_false_iff_not]
          refine ⟨⟨⟨?_, ?_⟩, ?_⟩, ?_⟩ <;>
          · rintro rfl
            exact absurd hdigit (by decide)
        intro s
        rw [skip, List.dropWhile_cons_of_neg (by simp [hblank])]
      · rintro rfl
        exact absurd hdigit (by decide)

theorem skip_prettyAt (depth : Nat) {j : Json} (hj : j.IsExact) (s : List Char) :
    skip (prettyAt depth j ++ s) = prettyAt depth j ++ s := by
  obtain ⟨c, cs, hc, hskip, -⟩ := prettyAt_eq_cons depth hj
  rw [hc, List.cons_append, hskip]

theorem length_newLine (depth : Nat) : 0 < (newLine depth).length := by
  simp [newLine]

theorem ends_newLine (depth : Nat) (s : List Char) : Ends (newLine depth ++ s) := by
  intro c hc
  cases hc
  decide

theorem ends_comma (s : List Char) : Ends (',' :: s) := by
  intro c hc
  cases hc
  decide

theorem skip_comma (s : List Char) : skip (',' :: s) = ',' :: s :=
  rfl

theorem skip_colon (s : List Char) : skip (':' :: s) = ':' :: s :=
  rfl

theorem skip_quote (s : List Char) : skip ('"' :: s) = '"' :: s :=
  rfl

theorem skip_brace (s : List Char) : skip ('\x7d' :: s) = '\x7d' :: s :=
  rfl

theorem skip_prettyItems (depth : Nat) {a : Json} {list : List Json} (hl : AreExact (a :: list)) (s : List Char) :
    ∃ c cs, skip (prettyItems depth (a :: list) ++ s) = c :: cs ∧ c ≠ ']' := by
  obtain ⟨c, cs, hc, hskip, hclose⟩ := prettyAt_eq_cons depth hl.1
  cases list with
  | nil => exact ⟨c, cs ++ s, by rw [prettyItems, List.append_assoc, skip_newLine, hc, List.cons_append, hskip], hclose⟩
  | cons b list =>
    refine ⟨c, cs ++ ',' :: prettyItems depth (b :: list) ++ s, ?_, hclose⟩
    rw [prettyItems, List.append_assoc, List.append_assoc, skip_newLine, hc, List.cons_append, hskip, List.append_assoc]

theorem skip_prettyMembers (depth : Nat) (k : String) (v : Json) (list : List (String × Json)) (s : List Char) :
    ∃ cs, skip (prettyMembers depth ((k, v) :: list) ++ s) = '"' :: cs := by
  cases list with
  | nil =>
    rw [prettyMembers, List.append_assoc, List.append_assoc, skip_newLine, quote, List.cons_append]
    exact ⟨_, rfl⟩
  | cons b list =>
    rw [prettyMembers, List.append_assoc, List.append_assoc, List.append_assoc, skip_newLine, quote, List.cons_append]
    exact ⟨_, rfl⟩

mutual

/-- The text of a value reads as its tree, wherever it stands. -/
theorem value_prettyAt (depth : Nat) (j : Json) (hj : j.IsExact) (fuel : Nat) (s rest : List Char)
    (hf : (prettyAt depth j).length ≤ fuel) (hr : Ends rest) (hs : skip s = prettyAt depth j ++ rest) :
    value fuel s = (ofJson j, some rest) := by
  obtain ⟨fuel, rfl⟩ : ∃ k, fuel = k + 1 := by
    obtain ⟨c, cs, hc, -, -⟩ := prettyAt_eq_cons depth hj
    rw [hc, List.length_cons] at hf
    exact ⟨fuel - 1, by omega⟩
  match j with
  | .null =>
    rw [value, hs]
    rfl
  | .bool true =>
    rw [value, hs]
    rfl
  | .bool false =>
    rw [value, hs]
    rfl
  | .float _ => exact hj.elim
  | .int n => exact value_int hj hr hs
  | .str t =>
    rw [value, hs]
    simp only [prettyAt, quote, List.cons_append, List.append_assoc, List.nil_append]
    rw [literal_quote]
    simp only [value_reverse, ofJson]
  | .arr [] =>
    rw [value, hs]
    rfl
  | .arr (a :: list) =>
    have hlen : (prettyItems (depth + 1) (a :: list)).length ≤ fuel := by
      simp only [prettyAt, List.length_cons, List.length_append] at hf
      omega
    have hitems := items_prettyItems (depth + 1) depth a list hj fuel rest hlen
    obtain ⟨c, cs, hc, hclose⟩ := skip_prettyItems (depth + 1) hj (newLine depth ++ ']' :: rest)
    rw [value, hs]
    simp only [prettyAt, List.cons_append, List.append_assoc, List.nil_append]
    rw [hc] at hitems ⊢
    -- the first item does not look like the end of the array
    split
    · next h => cases h
    · next h => exact absurd (List.cons.inj h).1 hclose
    · rw [hitems]
      rfl
  | .obj [] =>
    rw [value, hs]
    rfl
  | .obj ((k, v) :: list) =>
    have hlen : (prettyMembers (depth + 1) ((k, v) :: list)).length ≤ fuel := by
      simp only [prettyAt, List.length_cons, List.length_append] at hf
      omega
    have hmembers := members_prettyMembers (depth + 1) depth k v list hj fuel rest hlen
    obtain ⟨cs, hc⟩ := skip_prettyMembers (depth + 1) k v list (newLine depth ++ '\x7d' :: rest)
    rw [value, hs]
    simp only [prettyAt, List.cons_append, List.append_assoc, List.nil_append]
    rw [hc] at hmembers ⊢
    split
    · next h => cases h
    · next h => exact absurd (List.cons.inj h).1 (by decide)
    · rw [hmembers]
      rfl
termination_by fuel

theorem items_prettyItems (depth outer : Nat) (a : Json) (list : List Json) (hl : AreExact (a :: list)) (fuel : Nat)
    (rest : List Char) (hf : (prettyItems depth (a :: list)).length ≤ fuel) :
    items fuel (skip (prettyItems depth (a :: list) ++ (newLine outer ++ ']' :: rest))) =
      (ofItems (a :: list), none, some rest) := by
  obtain ⟨ha, hlist⟩ := hl
  have hbreak := length_newLine depth
  obtain ⟨fuel, rfl⟩ : ∃ k, fuel = k + 1 := by
    refine ⟨fuel - 1, ?_⟩
    cases list <;> simp only [prettyItems, List.length_append] at hf <;> omega
  match list with
  | [] =>
    have hlen : (prettyAt depth a).length ≤ fuel := by
      simp only [prettyItems, List.length_append] at hf
      omega
    have hv := value_prettyAt depth a ha fuel _ (newLine outer ++ ']' :: rest) hlen (ends_newLine _ _)
      (skip_prettyAt depth ha _)
    rw [prettyItems, List.append_assoc, skip_newLine, skip_prettyAt depth ha, items, hv]
    dsimp only
    rw [skip_newLine]
    rfl
  | b :: list =>
    -- each of the two texts is shorter than both with a comma and a line break
    have hlen : (prettyAt depth a).length ≤ fuel ∧ (prettyItems depth (b :: list)).length ≤ fuel := by
      rw [prettyItems] at hf
      simp only [List.length_append, List.length_cons] at hf
      omega
    have hv := value_prettyAt depth a ha fuel _ (',' :: (prettyItems depth (b :: list) ++ (newLine outer ++ ']' :: rest)))
      hlen.1 (ends_comma _) (skip_prettyAt depth ha _)
    have hitems := items_prettyItems depth outer b list hlist fuel rest hlen.2
    obtain ⟨c, cs, hc, hclose⟩ := skip_prettyItems depth hlist (newLine outer ++ ']' :: rest)
    rw [prettyItems, List.append_assoc, List.append_assoc, skip_newLine, List.cons_append, skip_prettyAt depth ha, items,
      hv]
    simp only [skip_comma]
    rw [hc] at hitems ⊢
    split
    · next h => cases h
    · next h => exact absurd (List.cons.inj h).1 hclose
    · rw [hitems]
      rfl
termination_by fuel

theorem members_prettyMembers (depth outer : Nat) (k : String) (v : Json) (list : List (String × Json))
    (hl : MembersExact ((k, v) :: list)) (fuel : Nat) (rest : List Char)
    (hf : (prettyMembers depth ((k, v) :: list)).length ≤ fuel) :
    members fuel (skip (prettyMembers depth ((k, v) :: list) ++ (newLine outer ++ '\x7d' :: rest))) =
      (ofMembers ((k, v) :: list), none, some rest) := by
  obtain ⟨hv, hlist⟩ := hl
  have hbreak := length_newLine depth
  obtain ⟨fuel, rfl⟩ : ∃ k, fuel = k + 1 := by
    refine ⟨fuel - 1, ?_⟩
    cases list <;> simp only [prettyMembers, List.length_append] at hf <;> omega
  match list with
  | [] =>
    have hlen : (prettyAt depth v).length ≤ fuel := by
      simp only [prettyMembers, List.length_append, List.length_cons] at hf
      omega
    have hvalue := value_prettyAt depth v hv fuel (' ' :: (prettyAt depth v ++ (newLine outer ++ '\x7d' :: rest)))
      (newLine outer ++ '\x7d' :: rest) hlen (ends_newLine _ _) (skip_prettyAt depth hv _)
    rw [prettyMembers, List.append_assoc, List.append_assoc, skip_newLine, quote]
    simp only [List.cons_append, List.append_assoc, List.nil_append, skip_quote]
    rw [members]
    simp only [literal_quote, skip_colon, hvalue, skip_newLine, skip_brace, value_reverse]
    rfl
  | (k', v') :: list =>
    have hlen : (prettyAt depth v).length ≤ fuel ∧ (prettyMembers depth ((k', v') :: list)).length ≤ fuel := by
      rw [prettyMembers] at hf
      simp only [List.length_append, List.length_cons] at hf
      omega
    have hvalue := value_prettyAt depth v hv fuel
      (' ' :: (prettyAt depth v ++ ',' :: (prettyMembers depth ((k', v') :: list) ++ (newLine outer ++ '\x7d' :: rest))))
      (',' :: (prettyMembers depth ((k', v') :: list) ++ (newLine outer ++ '\x7d' :: rest))) hlen.1 (ends_comma _)
      (skip_prettyAt depth hv _)
    have hmembers := members_prettyMembers depth outer k' v' list hlist fuel rest hlen.2
    obtain ⟨cs, hc⟩ := skip_prettyMembers depth k' v' list (newLine outer ++ '\x7d' :: rest)
    rw [prettyMembers, List.append_assoc, List.append_assoc, List.append_assoc, skip_newLine, quote]
    simp only [List.cons_append, List.append_assoc, List.nil_append, skip_quote]
    rw [members]
    simp only [literal_quote, skip_colon, hvalue, skip_comma, value_reverse]
    rw [hc] at hmembers ⊢
    split
    · next h => cases h
    · rw [hmembers]
      rfl
termination_by fuel

end

/-- The printed text of a value reads as its tree, with nothing behind it. -/
theorem read_pretty {j : Json} (hj : j.IsExact) : read j.pretty = (ofJson j, none) := by
  have hs : skip j.pretty = prettyAt 0 j ++ [] := by
    have := skip_prettyAt 0 hj []
    rwa [List.append_nil] at this ⊢
  have hv : value (j.pretty.length + 1) j.pretty = (ofJson j, some []) :=
    value_prettyAt 0 j hj _ _ [] (Nat.le_succ _) (fun c hc => by cases hc) hs
  rw [read, hv]
  rfl

end Raw

/-- A decoder of whole texts gets the tree of the value that is printed. -/
theorem decodeText_pretty {α : Type} (decode : Raw → Except Cause α) {j : Json} (hj : j.IsExact) :
    decodeText decode (String.ofList j.pretty) = decode (Raw.ofJson j) := by
  rw [decodeText, String.toList_ofList, Raw.read_pretty hj]
  dsimp only [bind, Except.bind]
  cases decode (Raw.ofJson j) <;> rfl

end SampleRecorder.Json
