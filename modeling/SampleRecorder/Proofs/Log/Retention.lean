import SampleRecorder.Log.Buffer

/-!
# What a log buffer keeps

A buffer that has gone through any operations holds the last of the entries that it has taken since it was cleared, in
order (`kept_after`).  `taken` gives these entries as a log without a bound would hold them, so what the buffer lacks in
front of its own is what its capacity has made it drop.  An entry is dropped only where there is no room for it, and
none comes back.
-/

namespace SampleRecorder.Log

namespace Level

/-- The levels, the least severe one first. -/
def ascending : List Level :=
  [.trace, .debug, .info, .warn, .error]

/-- Whether a level is another one, or stands behind it. -/
def IsAtLeast (l least : Level) : Prop :=
  ascending.idxOf least ≤ ascending.idxOf l

instance (l least : Level) : Decidable (l.IsAtLeast least) :=
  inferInstanceAs (Decidable (_ ≤ _))

theorem reaches_iff (l least : Level) : l.reaches least = true ↔ l.IsAtLeast least := by
  cases l <;> cases least <;> decide

end Level

namespace Buffer

/-! ### Runs -/

/-- An operation on a log buffer. -/
inductive Op where
  | push (e : Entry)
  | setCapacity (capacity : Nat)
  | setLeast (least : Level)
  | clear

/-- The buffer after an operation. -/
def Op.apply (b : Buffer) : Op → Buffer
  | .push e => b.push e
  | .setCapacity capacity => b.setCapacity capacity
  | .setLeast least => b.setLeast least
  | .clear => b.clear

/-- The buffer after operations, one after the other. -/
def after (b : Buffer) (ops : List Op) : Buffer :=
  ops.foldl Op.apply b

/-- The capacity that was asked for last. -/
def capacityAfter (capacity : Nat) : List Op → Nat
  | [] => capacity
  | .setCapacity capacity :: ops => capacityAfter capacity ops
  | _ :: ops => capacityAfter capacity ops

/-- The least level in force after operations. -/
def leastAfter (least : Level) : List Op → Level
  | [] => least
  | .setLeast least :: ops => leastAfter least ops
  | _ :: ops => leastAfter least ops

/-- The entries that are taken from the last clearing on: those at hand at first, and every one that is pushed with at
least the level in force then. -/
def taken (least : Level) (held : List Entry) : List Op → List Entry
  | [] => held
  | .push e :: ops => taken least (if e.level.IsAtLeast least then held ++ [e] else held) ops
  | .setCapacity _ :: ops => taken least held ops
  | .setLeast least :: ops => taken least held ops
  | .clear :: ops => taken least [] ops

/-! ### The newest entries -/

variable {n : Nat} {entries held : List Entry}

theorem newest_suffix (n : Nat) (entries : List Entry) : newest n entries <:+ entries :=
  List.drop_suffix _ _

theorem length_newest (n : Nat) (entries : List Entry) : (newest n entries).length = min n entries.length := by
  rw [newest, List.length_drop]
  omega

theorem newest_of_le (h : entries.length ≤ n) : newest n entries = entries := by
  rw [newest, Nat.sub_eq_zero_of_le h, List.drop_zero]

/-- Where there is no room for one entry more, the oldest one makes it. -/
theorem newest_concat_of_full (hn : 0 < n) (h : entries.length = n) (e : Entry) :
    newest n (entries ++ [e]) = entries.tail ++ [e] := by
  have hlength : (entries ++ [e]).length - n = 1 := by
    rw [List.length_append, List.length_singleton]
    omega
  rw [newest, hlength, List.drop_append_of_le_length (by omega), List.drop_one]

/-! ### What an operation keeps -/

/-- A buffer with certain limits that holds the last of some entries. -/
structure Keeps (b : Buffer) (capacity : Nat) (least : Level) (held : List Entry) : Prop where
  entries : b.entries <:+ held
  size : b.entries.length ≤ b.capacity
  capacity : b.capacity = max capacity 1
  least : b.least = least

variable {b : Buffer} {capacity : Nat} {least : Level}

theorem keeps_empty (capacity : Nat) (least : Level) : (empty capacity least).Keeps capacity least [] :=
  ⟨List.suffix_rfl, Nat.zero_le _, rfl, rfl⟩

/-- Of whatever is held, a buffer keeps its own entries. -/
theorem Keeps.self (h : b.Keeps capacity least held) : b.Keeps capacity least b.entries :=
  ⟨List.suffix_rfl, h.size, h.capacity, h.least⟩

theorem Keeps.push (h : b.Keeps capacity least held) (e : Entry) :
    (b.push e).Keeps capacity least (if e.level.IsAtLeast least then held ++ [e] else held) := by
  simp only [Buffer.push, h.least, Level.reaches_iff]
  split
  · refine ⟨(newest_suffix _ _).trans ?_, ?_, h.capacity, rfl⟩
    · obtain ⟨dropped, hheld⟩ := h.entries
      exact ⟨dropped, by rw [← hheld, List.append_assoc]⟩
    · rw [length_newest]
      exact Nat.min_le_left _ _
  · exact h

theorem Keeps.setCapacity (h : b.Keeps capacity least held) (n : Nat) : (b.setCapacity n).Keeps n least held := by
  refine ⟨(newest_suffix _ _).trans h.entries, ?_, rfl, h.least⟩
  rw [Buffer.setCapacity, length_newest]
  exact Nat.min_le_left _ _

/-- What a buffer keeps, it keeps through a run, with what the run takes. -/
theorem Keeps.after (h : b.Keeps capacity least held) (ops : List Op) :
    (b.after ops).Keeps (capacityAfter capacity ops) (leastAfter least ops) (taken least held ops) := by
  induction ops generalizing b capacity least held with
  | nil => exact h
  | cons op ops ih =>
    cases op with
    | push e => exact ih (h.push e)
    | setCapacity n => exact ih (h.setCapacity n)
    | setLeast least => exact ih ⟨h.entries, h.size, h.capacity, rfl⟩
    | clear => exact ih ⟨List.suffix_rfl, Nat.zero_le _, h.capacity, h.least⟩

/-! ### When entries are dropped -/

/-- An entry that is taken goes behind the others, and only in a full buffer the oldest one makes room for it. -/
theorem Keeps.entries_push (h : b.Keeps capacity least held) (e : Entry) :
    (b.push e).entries =
      if e.level.IsAtLeast least then (if b.entries.length < max capacity 1 then b.entries else b.entries.tail) ++ [e]
      else b.entries := by
  simp only [Buffer.push, h.least, Level.reaches_iff]
  split
  · show newest b.capacity (b.entries ++ [e]) = _
    have hsize := h.size
    rw [← h.capacity]
    split
    · next hroom =>
      refine newest_of_le ?_
      rw [List.length_append, List.length_singleton]
      omega
    · next hfull =>
      refine newest_concat_of_full ?_ (by omega) e
      rw [h.capacity]
      omega
  · rfl

theorem Keeps.entries_setCapacity (h : b.Keeps capacity least held) {n : Nat} (hn : capacity ≤ n) :
    (b.setCapacity n).entries = b.entries := by
  refine newest_of_le (Nat.le_trans h.size ?_)
  rw [h.capacity]
  omega

/-- What a buffer holds after any run: the last of the entries that it has taken since it was cleared, and not more than
its capacity, which is at least one.  One entry more costs the oldest one if the buffer is full, and else none.  A
greater capacity costs no entry and gives none back: whatever comes later, the buffer holds the last of these entries
and of what is taken then. -/
theorem kept_after (capacity : Nat) (least : Level) (ops : List Op) :
    let b := (empty capacity least).after ops
    b.entries <:+ taken least [] ops ∧ b.entries.length ≤ max (capacityAfter capacity ops) 1 ∧
      (∀ e, (b.push e).entries =
        if e.level.IsAtLeast (leastAfter least ops) then
          (if b.entries.length < max (capacityAfter capacity ops) 1 then b.entries else b.entries.tail) ++ [e]
        else b.entries) ∧
      (∀ n, capacityAfter capacity ops ≤ n → (b.setCapacity n).entries = b.entries) ∧
      ∀ later, (b.after later).entries <:+ taken (leastAfter least ops) b.entries later := by
  intro b
  have h : b.Keeps (capacityAfter capacity ops) (leastAfter least ops) (taken least [] ops) :=
    (keeps_empty capacity least).after ops
  refine ⟨h.entries, ?_, h.entries_push, fun n hn => h.entries_setCapacity hn, fun later => ?_⟩
  · rw [← h.capacity]
    exact h.size
  · exact (h.self.after later).entries

/-- A buffer that is made smaller and larger again, and a capacity of zero. -/
example (e f g : Entry) (he : e.level = .info) (hf : f.level = .warn) (hg : g.level = .error) :
    ((empty 3 .info).after [.push e, .push f, .setCapacity 1, .setCapacity 5, .push g]).entries = [f, g] ∧
      ((empty 0 .warn).after [.push e, .push f, .push g]).entries = [g] := by
  constructor
  · simp [after, Op.apply, push, setCapacity, empty, newest, Level.reaches, Level.rank, he, hf, hg]
  · simp [after, Op.apply, push, empty, newest, Level.reaches, Level.rank, he, hf, hg]

end Buffer

end SampleRecorder.Log
