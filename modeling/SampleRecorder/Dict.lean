/-!
# Dictionaries

Finite maps from texts, kept in ascending order of their keys, so that two dictionaries with the same entries are the
same list.  The view is `get?`: `get?_insert` and `get?_erase` say what the two operations do to it, `get?_ofList` what is
found in the dictionary of a list, and the entries are what is found (`mem_entries_iff`).
-/

namespace SampleRecorder

/-- A finite map from texts, in ascending order of the keys. -/
structure Dict (α : Type) where
  entries : List (String × α)
  sorted : entries.Pairwise (·.1 < ·.1)

namespace Dict

variable {α : Type}

/-- The dictionary without entries. -/
def empty : Dict α := ⟨[], .nil⟩

instance : Inhabited (Dict α) := ⟨empty⟩

/-- The value under a key. -/
def get? (d : Dict α) (key : String) : Option α :=
  d.entries.lookup key

/-- The keys, in ascending order. -/
def keys (d : Dict α) : List String :=
  d.entries.map (·.1)

/-- The sum of all values. -/
def total (d : Dict Nat) : Nat :=
  d.entries.foldr (fun entry n => entry.2 + n) 0

/-- Puts an entry in its place in an ascending list, instead of one with the same key. -/
def insertEntry (key : String) (value : α) : List (String × α) → List (String × α)
  | [] => [(key, value)]
  | (k, v) :: rest =>
    if key < k then (key, value) :: (k, v) :: rest
    else if k < key then (k, v) :: insertEntry key value rest
    else (key, value) :: rest

private theorem insertEntry_keys {key : String} {value : α} {l : List (String × α)} {e : String × α}
    (h : e ∈ insertEntry key value l) : e = (key, value) ∨ e ∈ l := by
  induction l with
  | nil => simpa [insertEntry] using h
  | cons a l ih =>
    obtain ⟨k, v⟩ := a
    unfold insertEntry at h
    split at h
    · simpa using h
    · split at h
      · rcases List.mem_cons.1 h with rfl | h
        · simp
        · rcases ih h with h | h <;> simp [h]
      · rcases List.mem_cons.1 h with rfl | h <;> simp_all

private theorem eq_of_not_lt {a b : String} (h : ¬a < b) (h' : ¬b < a) : a = b :=
  String.le_antisymm (String.not_lt.1 h') (String.not_lt.1 h)

theorem insertEntry_sorted {key : String} {value : α} {l : List (String × α)} (h : l.Pairwise (·.1 < ·.1)) :
    (insertEntry key value l).Pairwise (·.1 < ·.1) := by
  induction l with
  | nil => simp [insertEntry]
  | cons a l ih =>
    obtain ⟨k, v⟩ := a
    rw [List.pairwise_cons] at h
    unfold insertEntry
    split
    · next hk =>
      refine List.pairwise_cons.2 ⟨?_, List.pairwise_cons.2 h⟩
      intro e he
      rcases List.mem_cons.1 he with rfl | he
      · exact hk
      · exact String.lt_trans hk (h.1 e he)
    · split
      · next hk =>
        refine List.pairwise_cons.2 ⟨?_, ih h.2⟩
        intro e he
        rcases insertEntry_keys he with rfl | he
        · exact hk
        · exact h.1 e he
      · next hk hk' =>
        refine List.pairwise_cons.2 ⟨?_, h.2⟩
        intro e he
        rw [eq_of_not_lt hk hk']
        exact h.1 e he

/-- Sets the value under a key. -/
def insert (d : Dict α) (key : String) (value : α) : Dict α :=
  ⟨insertEntry key value d.entries, insertEntry_sorted d.sorted⟩

/-- Drops the entry under a key, if there is one. -/
def erase (d : Dict α) (key : String) : Dict α :=
  ⟨d.entries.filter (·.1 != key), d.sorted.filter _⟩

/-- The dictionary of a list of entries, where later ones win. -/
def ofList (l : List (String × α)) : Dict α :=
  l.foldl (fun d e => d.insert e.1 e.2) empty

@[simp] theorem get?_empty (key : String) : (empty : Dict α).get? key = none := rfl

private theorem lookup_entry (key : String) (value : α) (l : List (String × α)) (k : String) :
    ((key, value) :: l).lookup k = if k = key then some value else l.lookup k := by
  by_cases h : k = key
  · subst h
    simp
  · rw [List.lookup_cons, beq_eq_false_iff_ne.2 h, if_neg h]

private theorem lookup_insertEntry (key : String) (value : α) (l : List (String × α)) (k : String) :
    (insertEntry key value l).lookup k = if k = key then some value else l.lookup k := by
  induction l with
  | nil => exact lookup_entry key value [] k
  | cons a l ih =>
    obtain ⟨k', v⟩ := a
    unfold insertEntry
    split
    · exact lookup_entry key value ((k', v) :: l) k
    · next hlt =>
      split
      · next hgt =>
        rw [lookup_entry, lookup_entry, ih]
        by_cases h : k = key
        · have : k ≠ k' := fun e => String.lt_irrefl key ((e.symm.trans h) ▸ hgt)
          rw [if_neg this, if_pos h, if_pos h]
        · rw [if_neg h, if_neg h]
      · next hgt =>
        rw [lookup_entry, lookup_entry, ← eq_of_not_lt hlt hgt]
        split <;> rfl

private theorem lookup_filter_ne (key : String) (l : List (String × α)) (k : String) :
    (l.filter (·.1 != key)).lookup k = if k = key then none else l.lookup k := by
  induction l with
  | nil => simp
  | cons a l ih =>
    obtain ⟨k', v⟩ := a
    rw [lookup_entry]
    by_cases h : k' = key
    · subst h
      by_cases hk : k = k'
      · simpa [hk] using ih
      · simpa [hk] using ih
    · by_cases hk : k = k'
      · simp [hk, h]
      · simpa [lookup_entry, h, hk] using ih

theorem get?_insert (d : Dict α) (key : String) (value : α) (k : String) :
    (d.insert key value).get? k = if k = key then some value else d.get? k :=
  lookup_insertEntry key value d.entries k

theorem get?_insert_self (d : Dict α) (key : String) (value : α) : (d.insert key value).get? key = some value := by
  rw [get?_insert, if_pos rfl]

theorem get?_erase (d : Dict α) (key k : String) :
    (d.erase key).get? k = if k = key then none else d.get? k :=
  lookup_filter_ne key d.entries k

/-- The entries are what is found under their keys. -/
theorem mem_entries_iff (d : Dict α) (key : String) (value : α) :
    (key, value) ∈ d.entries ↔ d.get? key = some value := by
  obtain ⟨l, hl⟩ := d
  show (key, value) ∈ l ↔ l.lookup key = some value
  induction l with
  | nil => simp
  | cons a l ih =>
    obtain ⟨k, v⟩ := a
    rw [List.pairwise_cons] at hl
    rw [lookup_entry, List.mem_cons]
    split
    · next h =>
      subst h
      -- further on there are only greater keys
      have : (key, value) ∉ l := fun hm => String.lt_irrefl key (hl.1 _ hm)
      simp [this, eq_comm]
    · next h => simp [h, ih hl.2]

/-- The keys are those under which something is found. -/
theorem mem_keys_iff (d : Dict α) (key : String) : key ∈ d.keys ↔ ∃ value, d.get? key = some value := by
  simp only [keys, List.mem_map, Prod.exists, mem_entries_iff, exists_and_right, exists_eq_right]

private theorem get?_foldl_insert (l : List (String × α)) (d : Dict α) (key : String) :
    (l.foldl (fun d e => d.insert e.1 e.2) d).get? key = (l.reverse.lookup key).or (d.get? key) := by
  induction l generalizing d with
  | nil => rfl
  | cons e l ih =>
    rw [List.foldl_cons, ih, get?_insert, List.reverse_cons, List.lookup_append, lookup_entry, Option.or_assoc]
    split <;> rfl

/-- What is found in the dictionary of a list is the last entry with the key. -/
theorem get?_ofList (l : List (String × α)) (key : String) : (ofList l).get? key = l.reverse.lookup key := by
  rw [ofList, get?_foldl_insert, get?_empty, Option.or_none]

theorem mem_of_get?_ofList {l : List (String × α)} {key : String} {value : α}
    (h : (ofList l).get? key = some value) : (key, value) ∈ l := by
  rw [get?_ofList] at h
  obtain ⟨before, after, heq, -⟩ := List.lookup_eq_some_iff.mp h
  rw [← List.mem_reverse, heq]
  exact List.mem_append_right before List.mem_cons_self

theorem mem_keys_ofList (l : List (String × α)) (key : String) : key ∈ (ofList l).keys ↔ key ∈ l.map (·.1) := by
  have hnone : (ofList l).get? key = none ↔ key ∉ l.map (·.1) := by
    rw [get?_ofList, List.lookup_eq_none_iff]
    simp only [List.mem_reverse, List.mem_map, not_exists, not_and, bne_iff_ne, ne_eq]
    exact forall₂_congr fun _ _ => not_congr eq_comm
  rw [mem_keys_iff, ← Option.isSome_iff_exists, Option.isSome_iff_ne_none, ne_eq, hnone, Decidable.not_not]

private theorem value_unique {l : List (String × α)} (hl : (l.map (·.1)).Nodup) {key : String} {v w : α}
    (hv : (key, v) ∈ l) (hw : (key, w) ∈ l) : v = w := by
  induction l with
  | nil => cases hv
  | cons e l ih =>
    rw [List.map_cons, List.nodup_cons] at hl
    have absent (u : α) : (key, u) ∈ l → e.1 ≠ key := fun hu he => hl.1 (he ▸ List.mem_map_of_mem hu)
    rcases List.mem_cons.mp hv with hv | hv <;> rcases List.mem_cons.mp hw with hw | hw
    · exact (Prod.mk.inj (hv.trans hw.symm)).2
    · exact absurd (congrArg Prod.fst hv).symm (absent w hw)
    · exact absurd (congrArg Prod.fst hw).symm (absent v hv)
    · exact ih hl.2 hv hw

/-- Where no key comes twice, every entry of the list is found. -/
theorem get?_ofList_of_mem {l : List (String × α)} (hl : (l.map (·.1)).Nodup) {key : String} {value : α}
    (h : (key, value) ∈ l) : (ofList l).get? key = some value := by
  have hkey : key ∈ (ofList l).keys := (mem_keys_ofList l key).mpr (List.mem_map_of_mem h)
  obtain ⟨value', h'⟩ := (mem_keys_iff _ key).mp hkey
  rw [h', value_unique hl (mem_of_get?_ofList h') h]

private theorem foldr_insertEntry (key : String) (n : Nat) {l : List (String × Nat)} (h : l.Pairwise (·.1 < ·.1)) :
    (insertEntry key n l).foldr (fun entry n => entry.2 + n) 0 + (l.lookup key).getD 0 =
      l.foldr (fun entry n => entry.2 + n) 0 + n := by
  induction l with
  | nil => simp [insertEntry]
  | cons a l ih =>
    obtain ⟨k, v⟩ := a
    rw [List.pairwise_cons] at h
    rw [lookup_entry]
    unfold insertEntry
    split
    · next hlt =>
      have hne : key ≠ k := fun e => String.lt_irrefl key (e ▸ hlt)
      have hnone : l.lookup key = none := by
        refine List.lookup_eq_none_iff.mpr fun e he => ?_
        have hlt' := String.lt_trans hlt (h.1 e he)
        simpa using fun heq : key = e.1 => String.lt_irrefl key (heq ▸ hlt')
      simp only [if_neg hne, hnone, List.foldr_cons, Option.getD_none]
      omega
    · split
      · next hgt =>
        have hne : key ≠ k := fun e => String.lt_irrefl k (e ▸ hgt)
        have := ih h.2
        simp only [if_neg hne, List.foldr_cons]
        omega
      · next hlt hgt =>
        simp only [if_pos (eq_of_not_lt hlt hgt), List.foldr_cons, Option.getD_some]
        omega

/-- The sum of the values changes by what is put under the key instead of what was there. -/
theorem total_insert (d : Dict Nat) (key : String) (n : Nat) :
    (d.insert key n).total + (d.get? key).getD 0 = d.total + n :=
  foldr_insertEntry key n d.sorted

end Dict

end SampleRecorder
