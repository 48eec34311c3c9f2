import Mathlib.Data.List.Induction
import SampleRecorder.Proofs.Transmit.Operation

/-!
# What a transmitter remembers

The history and the log of a transmitter after any run, as functions of the commands that were sent in it.  A command
that is sent again moves to the front of the history, and the history is cut to its limit every time.  Neither differs
from dropping repetitions and cutting once, at the end (`take_filter_take`), since an entry that was cut off comes back
only by being sent.  So the history holds the latest of the texts since it was cleared, each once, and the log the
latest commands of the whole run (`remembered_after`).
-/

namespace SampleRecorder

/-! ### Lists without repetitions -/

section Distinct

variable {α : Type} [BEq α] [LawfulBEq α]

theorem eraseDups_filter (p : α → Bool) : ∀ l : List α, (l.filter p).eraseDups = l.eraseDups.filter p
  | [] => rfl
  | a :: l => by
    have hrest := eraseDups_filter p (l.filter fun b => !b == a)
    rw [List.filter_filter] at hrest
    rw [List.eraseDups_cons]
    by_cases ha : p a = true
    · rw [List.filter_cons_of_pos ha, List.filter_cons_of_pos ha, List.eraseDups_cons, List.filter_filter, ← hrest]
      congr 3
      funext b
      exact Bool.and_comm _ _
    · rw [List.filter_cons_of_neg ha, List.filter_cons_of_neg ha, ← hrest]
      congr 1
      -- what is kept differs from the first element without asking
      refine List.filter_congr fun b _ => ?_
      cases hb : p b with
      | false => rfl
      | true =>
        have hne : b ≠ a := by
          rintro rfl
          exact ha hb
        simp [hne]
termination_by l => l.length
decreasing_by exact Nat.lt_succ_of_le (List.length_filter_le _ _)

theorem nodup_eraseDups : ∀ l : List α, l.eraseDups.Nodup
  | [] => List.nodup_nil
  | a :: l => by
    have hrest := nodup_eraseDups (l.filter fun b => !b == a)
    rw [List.eraseDups_cons, List.nodup_cons, List.mem_eraseDups]
    exact ⟨by simp, hrest⟩
termination_by l => l.length
decreasing_by exact Nat.lt_succ_of_le (List.length_filter_le _ _)

/-- Where a list without repetitions is cut before one element is taken out, one element more has to be kept. -/
theorem take_filter_take {l : List α} (hl : l.Nodup) (a : α) (n : Nat) :
    ((l.take (n + 1)).filter (· != a)).take n = (l.filter (· != a)).take n := by
  induction l generalizing n with
  | nil => rfl
  | cons b l ih =>
    rw [List.nodup_cons] at hl
    rw [List.take_succ_cons]
    by_cases hb : b = a
    · subst hb
      -- the element does not come again
      have hkept (m : Nat) : (l.take m).filter (· != b) = l.take m := by
        rw [List.filter_eq_self]
        rintro c hc
        have hne : c ≠ b := by
          rintro rfl
          exact hl.1 (List.mem_of_mem_take hc)
        simpa using hne
      have hall : l.filter (· != b) = l := by
        have := hkept l.length
        rwa [List.take_length] at this
      rw [List.filter_cons_of_neg (by simp), List.filter_cons_of_neg (by simp), hkept, hall, List.take_take, Nat.min_self]
    · rw [List.filter_cons_of_pos (by simpa using hb), List.filter_cons_of_pos (by simpa using hb)]
      cases n with
      | zero => rfl
      | succ n => rw [List.take_succ_cons, List.take_succ_cons, ih hl.2]

/-- One element more in front of those that are kept, each once. -/
theorem take_cons_filter_take (a : α) (l : List α) (n : Nat) :
    (a :: (l.eraseDups.take n).filter (· != a)).take n = (a :: l).eraseDups.take n := by
  cases n with
  | zero => rfl
  | succ n =>
    rw [List.eraseDups_cons, List.take_succ_cons, List.take_succ_cons, take_filter_take (nodup_eraseDups l)]
    congr 2
    exact (eraseDups_filter _ l).symm

end Distinct

/-- One element more behind the last ones. -/
theorem drop_append_singleton {α : Type} (l : List α) (a : α) {n : Nat} (hn : 0 < n) :
    (if (l.drop (l.length - n)).length = n then (l.drop (l.length - n)).drop 1 else l.drop (l.length - n)) ++ [a] =
      (l ++ [a]).drop ((l ++ [a]).length - n) := by
  rw [List.length_drop, List.length_append, List.length_singleton]
  by_cases h : n ≤ l.length
  · rw [if_pos (by omega), List.drop_drop, List.drop_append_of_le_length (by omega),
      show l.length - n + 1 = l.length + 1 - n by omega]
  · rw [if_neg (by omega), show l.length - n = 0 by omega, show l.length + 1 - n = 0 by omega]
    rfl

namespace Transmit.Transmitter

/-! ### One operation -/

namespace Op

/-- The command that an operation sends, if it sends one. -/
def written (t : Transmitter) : Op → Option Sent
  | send command =>
    match (command.send t).value.1 with
    | .ok _ => (command.text? t.settings).map fun text => ⟨text, t.settings.encoding⟩
    | .error _ => none
  | _ => none

/-- Whether an operation forgets the history. -/
def clears : Op → Bool
  | clearHistory => true
  | _ => false

/-- An operation sends a command and remembers it, or it leaves what is remembered as it is, except that it may clear
the history. -/
theorem apply_cases (t : Transmitter) (op : Op) :
    (∃ text bytes port, op.written t = some ⟨text, t.settings.encoding⟩ ∧ op.clears = false ∧
        op.apply t = { t.remember text bytes with port }) ∨
      (op.written t = none ∧ (op.apply t).sent = t.sent ∧ (op.apply t).wire = t.wire ∧
        (op.apply t).history = if op.clears then [] else t.history) := by
  cases op with
  | send command =>
    have happly : (send command).apply t = (command.send t).value.2 := rfl
    cases htext : command.text? t.settings with
    | none =>
      refine .inr ⟨?_, ?_⟩
      · simp only [written, htext]
        cases (command.send t).value.1 <;> rfl
      · rw [happly, Pending.value_send_of_no_text htext]
        exact ⟨rfl, rfl, rfl⟩
    | some text =>
      cases hanswer : (command.send t).value.1 with
      | ok _ =>
        obtain ⟨bytes, -, -, hv⟩ := value_send_of_ok htext hanswer
        refine .inl ⟨text, bytes, _, ?_, rfl, hv⟩
        simp only [written, hanswer, htext, Option.map_some]
      | error fault =>
        obtain ⟨hv, -⟩ := value_send_of_error htext hanswer
        refine .inr ⟨?_, ?_⟩
        · simp only [written, hanswer]
        · rw [happly, hv]
          exact ⟨rfl, rfl, rfl⟩
  | _ => exact .inr ⟨rfl, rfl, rfl, rfl⟩

end Op

/-! ### Runs -/

theorem after_concat (t : Transmitter) (ops : List Op) (op : Op) : t.after (ops ++ [op]) = op.apply (t.after ops) := by
  rw [after, List.foldl_append]
  rfl

theorem steps_concat (t : Transmitter) (ops : List Op) (op : Op) :
    t.steps (ops ++ [op]) = t.steps ops ++ [(t.after ops, op)] := by
  induction ops generalizing t with
  | nil => rfl
  | cons first ops ih => exact congrArg ((t, first) :: ·) (ih (first.apply t))

/-- The commands that a run sends, in order. -/
def writes (t : Transmitter) (ops : List Op) : List Sent :=
  (t.steps ops).filterMap fun step => step.2.written step.1

/-- The commands that a run has sent since the history was last cleared, the latest first. -/
def recent (t : Transmitter) (ops : List Op) : List Sent :=
  ((t.steps ops).reverse.takeWhile fun step => !step.2.clears).filterMap fun step => step.2.written step.1

theorem writes_concat (t : Transmitter) (ops : List Op) (op : Op) :
    t.writes (ops ++ [op]) = t.writes ops ++ (op.written (t.after ops)).toList := by
  rw [writes, steps_concat, List.filterMap_append, ← writes, List.filterMap_cons, List.filterMap_nil]
  cases op.written (t.after ops) <;> rfl

theorem recent_concat (t : Transmitter) (ops : List Op) (op : Op) :
    t.recent (ops ++ [op]) = if op.clears then [] else (op.written (t.after ops)).toList ++ t.recent ops := by
  rw [recent, steps_concat, List.reverse_append, List.reverse_singleton, List.singleton_append, List.takeWhile_cons]
  cases hclears : op.clears with
  | true => rfl
  | false =>
    simp only [Bool.not_false, ↓reduceIte, Bool.false_eq_true, List.filterMap_cons]
    cases op.written (t.after ops) <;> rfl

/-- What a transmitter holds that has sent some commands, those of them that it has to remember being given once more,
the latest first. -/
structure Remembers (t : Transmitter) (writes recent : List Sent) : Prop where
  history : t.history = ((recent.map (·.text)).eraseDups).take historyLimit
  sent : t.sent = writes.drop (writes.length - sentLimit)
  wire : t.wire.length = writes.length

theorem Remembers.apply {t : Transmitter} {writes recent : List Sent} (h : t.Remembers writes recent) (op : Op) :
    (op.apply t).Remembers (writes ++ (op.written t).toList)
      (if op.clears then [] else (op.written t).toList ++ recent) := by
  rcases op.apply_cases t with ⟨text, bytes, port, hwritten, hclears, hv⟩ | ⟨hwritten, hsent, hwire, hhistory⟩
  · rw [hwritten, hclears, hv]
    refine ⟨?_, ?_, ?_⟩
    · rw [remember, h.history]
      exact take_cons_filter_take text _ historyLimit
    · rw [remember, h.sent]
      exact drop_append_singleton writes _ (by decide)
    · simp [remember, h.wire]
  · rw [hwritten, Option.toList_none, List.append_nil, List.nil_append]
    refine ⟨?_, by rw [hsent, h.sent], by rw [hwire, h.wire]⟩
    rw [hhistory]
    cases op.clears with
    | true => rfl
    | false => exact h.history

theorem remembers_after (settings : Settings) (ops : List Op) :
    (({ settings } : Transmitter).after ops).Remembers (({ settings } : Transmitter).writes ops)
      (({ settings } : Transmitter).recent ops) := by
  induction ops using List.reverseRecOn with
  | nil => exact ⟨List.take_nil.symm, List.drop_nil.symm, rfl⟩
  | append_singleton ops op ih =>
    rw [after_concat, writes_concat, recent_concat]
    exact ih.apply op

/-- What is remembered after any run.  The history holds the texts that were sent since it was last cleared, from the
latest back, each where it first comes, as many as the limit allows.  The log holds the last commands of the whole run
in order, each with the encoding of the settings in force, and no other operation changes it.  There is one write on the
wire for each. -/
theorem remembered_after (settings : Settings) (ops : List Op) :
    let t := ({ settings } : Transmitter).after ops
    let writes := ({ settings } : Transmitter).writes ops
    let recent := ({ settings } : Transmitter).recent ops
    t.history = ((recent.map (·.text)).eraseDups).take historyLimit ∧ t.history.Nodup ∧
      t.sent = writes.drop (writes.length - sentLimit) ∧ t.wire.length = writes.length ∧
      ∀ op : Op, (∀ command, op ≠ .send command) → (op.apply t).sent = t.sent := by
  intro t writes recent
  have h : t.Remembers writes recent := remembers_after settings ops
  refine ⟨h.history, ?_, h.sent, h.wire, ?_⟩
  · rw [h.history]
    exact (nodup_eraseDups _).sublist (List.take_sublist _ _)
  · intro op hop
    cases op with
    | send command => exact absurd rfl (hop command)
    | _ => rfl

end Transmit.Transmitter

end SampleRecorder
