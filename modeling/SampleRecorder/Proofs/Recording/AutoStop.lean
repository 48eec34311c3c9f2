import Mathlib.Data.List.Induction
import SampleRecorder.Proofs.Recording.Operation

/-!
# Ends in time

A recording that was started with a time may be ended when the time is up.  Such an end may come late, twice or after
another start.  `IsPending` says from the history of a run which end is still awaited; the session knows it from three
parts of its state, and the main fact is that the two agree (`expire_iff_isPending`).
-/

namespace SampleRecorder.Recording.Session

/-- Whether the time of the start with a number is still to end the recording: this start is the latest one of the run
that succeeded, it was made with a time, and nothing behind it has taken its end back. -/
def IsPending (s : Session) (ops : List Op) (generation : Nat) : Prop :=
  ∃ before start later, ops = before ++ start :: later ∧
    start.starts (s.after before) = true ∧
    generation = s.startCount before + 1 ∧
    0 < (s.after before).settings.autoStopSeconds ∧
    ∀ step ∈ (s.after (before ++ [start])).steps later,
      step.2.starts step.1 = false ∧ step.2.disarms step.1 = false

/-- What stands behind a start takes up the session that the start leaves. -/
theorem after_insert (s : Session) (before : List Op) (start : Op) (later : List Op) :
    (s.after (before ++ [start])).after later = s.after (before ++ start :: later) := by
  rw [← after_append, List.append_assoc, List.singleton_append]

theorem not_isPending_nil (s : Session) (generation : Nat) : ¬s.IsPending [] generation := by
  rintro ⟨before, start, later, h, -⟩
  simp at h

/-- What one more operation makes of the awaited end. -/
theorem isPending_concat (s : Session) (ops : List Op) (op : Op) (generation : Nat) :
    s.IsPending (ops ++ [op]) generation ↔
      (op.starts (s.after ops) = true ∧ generation = s.startCount ops + 1 ∧
        0 < (s.after ops).settings.autoStopSeconds) ∨
      (op.starts (s.after ops) = false ∧ op.disarms (s.after ops) = false ∧ s.IsPending ops generation) := by
  constructor
  · rintro ⟨before, start, later, heq, hstarts, hgen, htime, hlater⟩
    rcases List.eq_nil_or_concat later with rfl | ⟨later, last, rfl⟩
    · obtain ⟨rfl, heq⟩ := List.append_inj' heq rfl
      obtain rfl : op = start := by simpa using heq
      exact .inl ⟨hstarts, hgen, htime⟩
    · rw [List.concat_eq_append, ← List.cons_append, ← List.append_assoc] at heq
      obtain ⟨rfl, heq⟩ := List.append_inj' heq rfl
      obtain rfl : op = last := by simpa using heq
      rw [List.concat_eq_append, steps_append, after_insert] at hlater
      have hop := hlater (s.after (before ++ start :: later), op)
        (List.mem_append_right _ (List.mem_singleton_self _))
      exact .inr ⟨hop.1, hop.2, before, start, later, rfl, hstarts, hgen, htime,
        fun step hstep => hlater step (List.mem_append_left _ hstep)⟩
  · rintro (⟨hstarts, hgen, htime⟩ | ⟨hstarts, hdisarms, before, start, later, rfl, hstart, hgen, htime, hlater⟩)
    · exact ⟨ops, op, [], rfl, hstarts, hgen, htime, fun _ hstep => absurd hstep List.not_mem_nil⟩
    · refine ⟨before, start, later ++ [op], by simp, hstart, hgen, htime, fun step hstep => ?_⟩
      rw [steps_append, after_insert, List.mem_append] at hstep
      rcases hstep with hstep | hstep
      · exact hlater step hstep
      · rw [List.mem_singleton.mp hstep]
        exact ⟨hstarts, hdisarms⟩

/-! ### One operation -/

/-- A start that succeeds takes the next number, and arms the recording when there is a time. -/
theorem apply_of_starts {s : Session} {op : Op} (h : op.starts s = true) :
    (op.apply s).generation = s.generation + 1 ∧ (op.apply s).isRecording = true ∧
      (op.apply s).isArmed = decide (0 < s.settings.autoStopSeconds) := by
  cases op with
  | start now classId =>
    simp only [Op.starts, value_start] at h
    simp only [Op.apply, value_start]
    split at h
    · cases h
    · next hc => rw [if_neg hc]; exact ⟨rfl, rfl, rfl⟩
  | _ => cases h

/-- What takes back an end in time disarms the session and starts nothing. -/
theorem apply_of_disarms {s : Session} {op : Op} (h : op.disarms s = true) :
    (op.apply s).generation = s.generation ∧ (op.apply s).isArmed = false := by
  cases op with
  | stop => simp [Op.apply, value_stop]
  | dispose => simp [Op.apply, value_stop]
  | configure settings => simp [Op.apply, value_configure]
  | expire generation =>
    simp only [Op.disarms, value_expire] at h
    simp only [Op.apply, value_expire]
    split at h
    · next hc => simp [hc, value_stop]
    · cases h
  | _ => cases h

/-- Every other operation leaves the number, the recording and its end in time alone. -/
theorem apply_of_neither {s : Session} {op : Op} (hs : op.starts s = false) (hd : op.disarms s = false) :
    (op.apply s).generation = s.generation ∧ (op.apply s).isRecording = s.isRecording ∧
      (op.apply s).isArmed = s.isArmed := by
  cases op with
  | start now classId =>
    simp only [Op.starts, value_start] at hs
    simp only [Op.apply, value_start]
    split at hs
    · next hc => rw [if_pos hc]; exact ⟨rfl, rfl, rfl⟩
    · cases hs
  | record now data label =>
    cases hr : s.isRecording with
    | true => simp [Op.apply, record_of_isRecording hr, hr]
    | false => simp [Op.apply, record_of_not_isRecording hr, hr]
  | clear => simp [Op.apply, value_clear]
  | expire generation =>
    simp only [Op.disarms, value_expire] at hd
    simp only [Op.apply, value_expire]
    split at hd
    · cases hd
    · next hc => rw [if_neg hc]; exact ⟨rfl, rfl, rfl⟩
  | _ => cases hd

/-- When an end in time is taken, by the three parts of the state that decide it. -/
theorem expire_eq_true_iff (s : Session) (generation : Nat) :
    (s.expire generation).value.1 = true ↔
      generation = s.generation ∧ s.isRecording = true ∧ s.isArmed = true := by
  rw [value_expire]
  split
  · next h => simpa using h
  · next h => simpa using h

/-! ### Runs -/

/-- The number of a session is the number of its starts, and it is armed while recording exactly if the end of the latest
one is awaited. -/
theorem generation_after (settings : Settings) (ops : List Op) :
    let s : Session := { settings }
    (s.after ops).generation = s.startCount ops ∧
      ∀ generation, s.IsPending ops generation ↔
        generation = (s.after ops).generation ∧ (s.after ops).isRecording = true ∧ (s.after ops).isArmed = true := by
  intro s
  induction ops using List.reverseRecOn with
  | nil =>
    refine ⟨rfl, fun generation => ⟨fun h => absurd h (s.not_isPending_nil generation), ?_⟩⟩
    rintro ⟨-, h, -⟩
    cases h
  | append_singleton ops op ih =>
    obtain ⟨hgen, hpending⟩ := ih
    rw [after_append, after_cons, after_nil, startCount_concat]
    cases hs : op.starts (s.after ops) with
    | true =>
      obtain ⟨hgen', hrec, harmed⟩ := apply_of_starts hs
      refine ⟨by simp [hgen', hgen], fun generation => ?_⟩
      rw [isPending_concat, hs, hgen', hrec, harmed, hgen]
      simp
    | false =>
      cases hd : op.disarms (s.after ops) with
      | true =>
        obtain ⟨hgen', harmed⟩ := apply_of_disarms hd
        refine ⟨by simp [hgen', hgen], fun generation => ?_⟩
        rw [isPending_concat, hs, hd, harmed]
        simp
      | false =>
        obtain ⟨hgen', hrec, harmed⟩ := apply_of_neither hs hd
        refine ⟨by simp [hgen', hgen], fun generation => ?_⟩
        rw [isPending_concat, hs, hd, hgen', hrec, harmed, hpending]
        simp

/-- Whether no end of the start with a number will ever be taken. -/
def IsSpent (s : Session) (generation : Nat) : Prop :=
  generation < s.generation ∨ generation = s.generation ∧ s.isArmed = false

theorem IsSpent.apply {generation : Nat} (s : Session) (op : Op) (h : s.IsSpent generation) :
    (op.apply s).IsSpent generation := by
  unfold IsSpent at h ⊢
  cases hs : op.starts s with
  | true =>
    have := (apply_of_starts hs).1
    omega
  | false =>
    cases hd : op.disarms s with
    | true =>
      obtain ⟨hgen, harmed⟩ := apply_of_disarms hd
      rw [hgen, harmed]
      exact h.imp_right fun h => ⟨h.1, rfl⟩
    | false =>
      obtain ⟨hgen, -, harmed⟩ := apply_of_neither hs hd
      rwa [hgen, harmed]

theorem IsSpent.after {s : Session} {generation : Nat} (h : s.IsSpent generation) (ops : List Op) :
    (s.after ops).IsSpent generation :=
  after_induction IsSpent.apply h ops

theorem IsSpent.expire {s : Session} {generation : Nat} (h : s.IsSpent generation) :
    (s.expire generation).value = (false, s) := by
  rw [value_expire, if_neg]
  rintro ⟨hgen, -, harmed⟩
  rcases h with h | h
  · omega
  · rw [h.2] at harmed
    cases harmed

/-- An end in time is taken exactly if it is awaited; then it ends the recording, and otherwise it changes nothing.  So
every start is ended at most once, no end of an earlier start stops a later recording, and refused starts, records and
clearings leave an awaited end as it is. -/
theorem expire_iff_isPending (settings : Settings) (ops : List Op) (generation : Nat) :
    let s₀ : Session := { settings }
    let s := s₀.after ops
    ((s.expire generation).value.1 = true ↔ s₀.IsPending ops generation) ∧
      ((s.expire generation).value.1 = true → (s.expire generation).value.2.isRecording = false) ∧
      ((s.expire generation).value.1 = false → (s.expire generation).value.2 = s) ∧
      ((s.expire generation).value.1 = true →
        ∀ later, ((s.after (.expire generation :: later)).expire generation).value.1 = false) ∧
      (∀ now classId later, (s.start now classId).value.1 = true → generation ≤ s₀.startCount ops →
        ((s.after (.start now classId :: later)).expire generation).value =
          (false, s.after (.start now classId :: later))) ∧
      ∀ op : Op, (∃ now classId, op = .start now classId ∧ (s.start now classId).value.1 = false) ∨
          (∃ now data label, op = .record now data label) ∨ op = .clear →
        (s.expire generation).value.1 = true → ((op.apply s).expire generation).value.1 = true := by
  intro s₀ s
  obtain ⟨hcount, hpending⟩ := generation_after settings ops
  refine ⟨?_, ?_, ?_, ?_, ?_, ?_⟩
  · rw [expire_eq_true_iff, hpending]
  · rw [value_expire]
    split
    · intro _; rw [value_stop]
    · nofun
  · rw [value_expire]
    split
    · nofun
    · exact fun _ => rfl
  · intro h later
    have hspent : (Op.apply s (.expire generation)).IsSpent generation := by
      obtain ⟨hgen, harmed⟩ := apply_of_disarms (show Op.disarms s (.expire generation) = true from h)
      exact .inr ⟨((s.expire_eq_true_iff generation).mp h).1.trans hgen.symm, harmed⟩
    rw [after_cons, (hspent.after later).expire]
  · intro now classId later h hle
    have hspent : (Op.apply s (.start now classId)).IsSpent generation := by
      have hgen := (apply_of_starts (show Op.starts s (.start now classId) = true from h)).1
      exact .inl (by rw [hgen, hcount]; exact Nat.lt_succ_of_le hle)
    rw [after_cons, (hspent.after later).expire]
  · intro op hop h
    have hneither : op.starts s = false ∧ op.disarms s = false := by
      rcases hop with ⟨now, classId, rfl, hrefused⟩ | ⟨now, data, label, rfl⟩ | rfl
      · exact ⟨hrefused, rfl⟩
      · exact ⟨rfl, rfl⟩
      · exact ⟨rfl, rfl⟩
    obtain ⟨hgen, hrec, harmed⟩ := apply_of_neither hneither.1 hneither.2
    rw [expire_eq_true_iff] at h ⊢
    rwa [hgen, hrec, harmed]

/-- The end of the first start comes too late, that of the second one in time. -/
example :
    let s := ({ settings := { enableLabeling := false } } : Session).after [.start 0 none, .stop, .start 1 none]
    (s.expire 1).value.1 = false ∧ (s.expire 2).value.1 = true := by
  decide

end SampleRecorder.Recording.Session
