/-!
# Sets of code points

A set of code points written as the ascending list of the points where membership changes: the first entry starts a
run of members, the second ends it, and so on.  All operations on two sets walk their lists side by side; the key
fact is that the walk decides membership point by point (`member_walk`), from which the operations have their laws
(`member_union`, `member_inter`).
-/

namespace SampleRecorder.Text

/-- A set of code points, given by the ascending points where membership changes. -/
structure CodeSet where
  changes : List Nat
  deriving DecidableEq, Repr

namespace CodeSet

/-- Membership after walking past every change that is not beyond `n`. -/
def member : List Nat → Nat → Bool
  | [], _ => false
  | b :: rest, n => if n < b then false else !member rest n

/-- Whether the set holds the code point `n`. -/
def has (s : CodeSet) (n : Nat) : Bool :=
  member s.changes n

/-- Whether the set holds the character `c`. -/
def contains (s : CodeSet) (c : Char) : Bool :=
  s.has c.toNat

/-! ### Building sets -/

/-- No code points. -/
def empty : CodeSet :=
  ⟨[]⟩

/-- Every code point. -/
def all : CodeSet :=
  ⟨[0, 0x110000]⟩

/-- The code points from `low` to `high`, both included. -/
def range (low high : Nat) : CodeSet :=
  if low ≤ high then ⟨[low, high + 1]⟩ else empty

/-- One code point more before the changes of a set that holds none below it. -/
def addBelow (n : Nat) : List Nat → List Nat
  | [] => [n, n + 1]
  | b :: rest => if n = b then b :: rest else if n + 1 = b then n :: rest else n :: (n + 1) :: b :: rest

/-- The set of the given code points. -/
def ofPoints (points : List Nat) : CodeSet :=
  ⟨(points.mergeSort (· ≤ ·)).foldr addBelow []⟩

/-- The set of the given characters. -/
def ofList (cs : List Char) : CodeSet :=
  ofPoints (cs.map Char.toNat)

/-! ### Operations -/

/-- The changes `rest` behind one at `n`, which counts only if it changes something. -/
def turn (before after : Bool) (n : Nat) (rest : List Nat) : List Nat :=
  if before = after then rest else n :: rest

/-- The changes of `op` between two sets, from a place where they hold what `p` and `q` say. -/
def walk (op : Bool → Bool → Bool) (p q : Bool) : List Nat → List Nat → List Nat
  | [], [] => []
  | a :: as, [] => turn (op p q) (op (!p) q) a (walk op (!p) q as [])
  | [], b :: bs => turn (op p q) (op p (!q)) b (walk op p (!q) [] bs)
  | a :: as, b :: bs =>
    if a < b then turn (op p q) (op (!p) q) a (walk op (!p) q as (b :: bs))
    else if b < a then turn (op p q) (op p (!q)) b (walk op p (!q) (a :: as) bs)
    else turn (op p q) (op (!p) (!q)) a (walk op (!p) (!q) as bs)
termination_by as bs => as.length + bs.length

theorem member_of_lt {n : Nat} {l : List Nat} (h : ∀ b ∈ l, n < b) : member l n = false := by
  cases l with
  | nil => rfl
  | cons b rest => simp [member, h b (by simp)]

theorem member_turn {before after : Bool} {n m : Nat} {rest : List Nat} (h : m < n → member rest m = false) :
    (before != member (turn before after n rest) m) =
      if m < n then before else (after != member rest m) := by
  unfold turn
  by_cases hm : m < n
  · cases before <;> cases after <;> simp [member, hm, h hm]
  · cases before <;> cases after <;> simp [member, hm]

/-- The combined set holds a point when `op` says so of the two sets. -/
theorem member_walk (op : Bool → Bool → Bool) (p q : Bool) (as bs : List Nat) (n : Nat)
    (ha : as.Pairwise (· < ·)) (hb : bs.Pairwise (· < ·)) :
    (op p q != member (walk op p q as bs) n) = op (p != member as n) (q != member bs n) := by
  have below : ∀ (p q : Bool) (as bs : List Nat), (∀ a ∈ as, n < a) → (∀ b ∈ bs, n < b) →
      (op p q != member (walk op p q as bs) n) = op (p != member as n) (q != member bs n) →
      member (walk op p q as bs) n = false := by
    intro p q as bs h₁ h₂ h
    rw [member_of_lt h₁, member_of_lt h₂] at h
    revert h
    simp only [Bool.bne_false]
    cases op p q <;> cases member (walk op p q as bs) n <;> simp
  fun_induction walk op p q as bs with
  | case1 => simp [member]
  | case2 p q a as ih =>
    rw [List.pairwise_cons] at ha
    have ih := ih ha.2 hb
    rw [member_turn fun h => below _ _ _ _ (fun x hx => Nat.lt_trans h (ha.1 x hx)) (by simp) ih]
    by_cases h : n < a
    · simp [h, member]
    · rw [if_neg h, ih]; simp [member, h]
  | case3 p q b bs ih =>
    rw [List.pairwise_cons] at hb
    have ih := ih ha hb.2
    rw [member_turn fun h => below _ _ _ _ (by simp) (fun x hx => Nat.lt_trans h (hb.1 x hx)) ih]
    by_cases h : n < b
    · simp [h, member]
    · rw [if_neg h, ih]; simp [member, h]
  | case4 p q a as b bs hab ih =>
    have ih := ih (List.pairwise_cons.1 ha).2 hb
    rw [List.pairwise_cons] at ha
    have hb' := List.pairwise_cons.1 hb
    rw [member_turn fun h => below _ _ _ _ (fun x hx => Nat.lt_trans h (ha.1 x hx))
      (fun x hx => by
        rcases List.mem_cons.1 hx with rfl | hx
        · omega
        · have := hb'.1 x hx; omega) ih]
    by_cases h : n < a
    · simp [h, member, Nat.lt_trans h hab]
    · rw [if_neg h, ih]; simp [member, h]
  | case5 p q a as b bs hab hba ih =>
    have ih := ih ha (List.pairwise_cons.1 hb).2
    rw [List.pairwise_cons] at hb
    have ha' := List.pairwise_cons.1 ha
    rw [member_turn fun h => below _ _ _ _
      (fun x hx => by
        rcases List.mem_cons.1 hx with rfl | hx
        · omega
        · have := ha'.1 x hx; omega) (fun x hx => Nat.lt_trans h (hb.1 x hx)) ih]
    by_cases h : n < b
    · simp [h, member, Nat.lt_trans h hba]
    · rw [if_neg h, ih]; simp [member, h]
  | case6 p q a as b bs hab hba ih =>
    have he : b = a := by omega
    subst he
    rw [List.pairwise_cons] at ha hb
    have ih := ih ha.2 hb.2
    rw [member_turn fun h => below _ _ _ _ (fun x hx => Nat.lt_trans h (ha.1 x hx))
      (fun x hx => Nat.lt_trans h (hb.1 x hx)) ih]
    by_cases h : n < b
    · simp [h, member]
    · rw [if_neg h, ih]; simp [member, h]

/-- The set of the points of which `op` holds, for an `op` that does not hold outside both sets. -/
def combine (op : Bool → Bool → Bool) (s t : CodeSet) : CodeSet :=
  ⟨walk op false false s.changes t.changes⟩

/-- The code points of both sets together. -/
def union (s t : CodeSet) : CodeSet :=
  combine or s t

/-- The code points that both sets hold. -/
def inter (s t : CodeSet) : CodeSet :=
  combine and s t

/-- The code points of the first set that the second one does not hold. -/
def diff (s t : CodeSet) : CodeSet :=
  combine (fun p q => p && !q) s t

/-- The code points that exactly one of the sets holds. -/
def symmDiff (s t : CodeSet) : CodeSet :=
  combine xor s t

/-- The code points of all the sets together. -/
def unions (sets : List CodeSet) : CodeSet :=
  sets.foldr union empty

theorem member_union (s t : CodeSet) (n : Nat) (hs : s.changes.Pairwise (· < ·))
    (ht : t.changes.Pairwise (· < ·)) : (s.union t).has n = (s.has n || t.has n) := by
  simpa [has, union, combine] using member_walk or false false s.changes t.changes n hs ht

theorem member_inter (s t : CodeSet) (n : Nat) (hs : s.changes.Pairwise (· < ·))
    (ht : t.changes.Pairwise (· < ·)) : (s.inter t).has n = (s.has n && t.has n) := by
  simpa [has, inter, combine] using member_walk and false false s.changes t.changes n hs ht

/-! ### Sets of characters

Surrogates are code points but no characters.  A run that an operation cuts out of a larger one begins and ends with a
character. -/

/-- The runs without surrogates at their ends; `between` stands for a run of all surrogates. -/
def trim (between : List Nat) : List Nat → List Nat
  | a :: b :: rest =>
    if a = 0xD800 then if b = 0xE000 then between ++ rest else 0xE000 :: b :: rest
    else if b = 0xE000 then a :: 0xD800 :: rest
    else a :: b :: trim between rest
  | rest => rest

/-- The characters of the first set that are not in the second. -/
def without (s t : CodeSet) : CodeSet :=
  ⟨trim [] (s.diff t).changes⟩

/-- The characters that are not in the set.  Where it holds all but the surrogates, the two characters next to these
are left. -/
def compl (s : CodeSet) : CodeSet :=
  ⟨trim [0xD7FF, 0xE001] (all.diff s).changes⟩

/-! ### Views -/

/-- The runs between pairs of changes, each with its first and its last member. -/
def pairs : List Nat → List (Nat × Nat)
  | a :: b :: rest => (a, b - 1) :: pairs rest
  | _ => []

/-- The runs of members, each with its first and its last member. -/
def ranges (s : CodeSet) : List (Nat × Nat) :=
  pairs s.changes

/-- The items, in ascending order of their keys, whose keys lie behind an odd number of changes. -/
def siftFrom {α : Type} (key : α → Nat) (inside : Bool) : List Nat → List α → List α
  | _, [] => []
  | [], x :: items => if inside then x :: siftFrom key inside [] items else siftFrom key inside [] items
  | b :: rest, x :: items =>
    if b ≤ key x then siftFrom key (!inside) rest (x :: items)
    else if inside then x :: siftFrom key inside (b :: rest) items
    else siftFrom key inside (b :: rest) items
termination_by changes items => changes.length + items.length

/-- The items whose keys the set holds; the items come in ascending order of their keys. -/
def sift {α : Type} (s : CodeSet) (key : α → Nat) (items : List α) : List α :=
  siftFrom key false s.changes items

/-- The only member of a set that holds a single code point. -/
def only? (s : CodeSet) : Option Nat :=
  match s.changes with
  | [a, b] => if b = a + 1 then some a else none
  | _ => none

/-- Whether the set holds no code point. -/
def isEmpty (s : CodeSet) : Bool :=
  s.changes.isEmpty

/-- Whether all members are below `n`. -/
def isBelow (s : CodeSet) (n : Nat) : Bool :=
  (s.changes.getLast?.getD 0) ≤ n

end CodeSet

end SampleRecorder.Text
