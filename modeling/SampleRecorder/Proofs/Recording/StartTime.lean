import Mathlib.Data.List.Induction
import SampleRecorder.Proofs.Recording.Operation

/-!
# The start time

A session notes when its samples began.  The first start sets the time, later ones keep it, and dropping the samples
drops it too, also while a recording is active; what this recording goes on to store has no start time then.  That is
the only way to come to samples without one (`startTime_eq_none_iff`).
-/

namespace SampleRecorder.Recording.Session

/-- Whether the samples were dropped while a recording was active, and no start has succeeded since. -/
def ClearedUnderway (s : Session) (ops : List Op) : Prop :=
  ∃ before later, ops = before ++ .clear :: later ∧ (s.after before).isRecording = true ∧
    ∀ step ∈ (s.after (before ++ [.clear])).steps later, step.2.starts step.1 = false

/-! ### One operation -/

theorem startTime_of_starts {s : Session} {op : Op} (h : op.starts s = true) :
    (op.apply s).stats.startTime ≠ none := by
  cases op with
  | start now classId =>
    simp only [Op.starts, value_start] at h
    simp only [Op.apply, value_start]
    split at h
    · cases h
    · next hc => rw [if_neg hc]; simp
  | _ => cases h

theorem startTime_clear (s : Session) : (Op.apply s .clear).stats.startTime = none := rfl

/-- A start that succeeds sets the time, a clearing drops it, and nothing else touches it. -/
theorem startTime_of_not_starts {s : Session} {op : Op} (h : op.starts s = false) (hop : op ≠ .clear) :
    (op.apply s).stats.startTime = s.stats.startTime := by
  cases op with
  | start now classId =>
    have hrefused := start_of_refused h
    rw [Op.apply, hrefused]
  | stop => rw [Op.apply, value_stop]
  | record now data label =>
    cases hr : s.isRecording with
    | true => rw [Op.apply, record_of_isRecording hr]; rfl
    | false => rw [Op.apply, record_of_not_isRecording hr]
  | clear => exact absurd rfl hop
  | configure settings => rfl
  | expire generation =>
    simp only [Op.apply, value_expire]
    split
    · rw [value_stop]
    · rfl
  | dispose => rw [Op.apply, value_stop]

/-- Without a start nothing begins to be recorded. -/
theorem idle_of_not_starts {s : Session} {op : Op} (h : op.starts s = false) (hr : s.isRecording = false)
    (hsamples : s.samples = []) : (op.apply s).isRecording = false ∧ (op.apply s).samples = [] := by
  cases op with
  | start now classId =>
    have hrefused := start_of_refused h
    rw [Op.apply, hrefused]
    exact ⟨hr, hsamples⟩
  | stop => rw [Op.apply, value_stop]; exact ⟨rfl, hsamples⟩
  | record now data label => rw [Op.apply, record_of_not_isRecording hr]; exact ⟨hr, hsamples⟩
  | clear => exact ⟨hr, rfl⟩
  | configure settings => exact ⟨hr, hsamples⟩
  | expire generation =>
    simp only [Op.apply, value_expire]
    split
    · rw [value_stop]; exact ⟨rfl, hsamples⟩
    · exact ⟨hr, hsamples⟩
  | dispose => rw [Op.apply, value_stop]; exact ⟨rfl, hsamples⟩

/-! ### Runs -/

theorem startTime_after_of_not_starts {s : Session} {ops : List Op} (h : s.stats.startTime = none)
    (hops : ∀ step ∈ s.steps ops, step.2.starts step.1 = false) : (s.after ops).stats.startTime = none := by
  induction ops generalizing s with
  | nil => exact h
  | cons op ops ih =>
    obtain ⟨hop, hrest⟩ := List.forall_mem_cons.mp hops
    refine ih ?_ hrest
    by_cases hclear : op = .clear
    · rw [hclear]
      exact startTime_clear s
    · rw [startTime_of_not_starts hop hclear]
      exact h

theorem ClearedUnderway.concat {s : Session} {ops : List Op} (h : s.ClearedUnderway ops) {op : Op}
    (hop : op.starts (s.after ops) = false) : s.ClearedUnderway (ops ++ [op]) := by
  obtain ⟨before, later, rfl, hr, hlater⟩ := h
  refine ⟨before, later ++ [op], by simp, hr, fun step hstep => ?_⟩
  rw [steps_append, ← after_append, List.append_assoc, List.singleton_append, List.mem_append] at hstep
  rcases hstep with hstep | hstep
  · exact hlater step hstep
  · rw [List.mem_singleton.mp hstep]
    exact hop

theorem startTime_of_clearedUnderway {s : Session} {ops : List Op} (h : s.ClearedUnderway ops) :
    (s.after ops).stats.startTime = none := by
  obtain ⟨before, later, rfl, -, hlater⟩ := h
  have hcleared : (s.after (before ++ [.clear])).stats.startTime = none := by
    rw [after_append]
    exact startTime_clear _
  have hend := startTime_after_of_not_starts hcleared hlater
  rwa [← after_append, List.append_assoc, List.singleton_append] at hend

/-- Without a start time nothing was recorded yet, or the samples of an active recording were dropped. -/
theorem clearedUnderway_or_idle (settings : Settings) (ops : List Op)
    (h : (({ settings } : Session).after ops).stats.startTime = none) :
    ({ settings } : Session).ClearedUnderway ops ∨
      (({ settings } : Session).after ops).isRecording = false ∧ (({ settings } : Session).after ops).samples = [] := by
  -- from the end: what the last operation leaves of either case
  induction ops using List.reverseRecOn with
  | nil => exact .inr ⟨rfl, rfl⟩
  | append_singleton ops op ih =>
    rw [after_append, after_cons, after_nil] at h ⊢
    generalize hs : ({ settings } : Session).after ops = s at h ih ⊢
    by_cases hclear : op = .clear
    · subst hclear
      cases hr : s.isRecording with
      | true => exact .inl ⟨ops, [], rfl, hs ▸ hr, fun _ hstep => absurd hstep List.not_mem_nil⟩
      | false => exact .inr ⟨hr, rfl⟩
    · cases hop : op.starts s with
      | true => exact absurd h (startTime_of_starts hop)
      | false =>
        rw [startTime_of_not_starts hop hclear] at h
        rcases ih h with hcleared | ⟨hr, hsamples⟩
        · exact .inl (hcleared.concat (hs ▸ hop))
        · exact .inr (idle_of_not_starts hop hr hsamples)

/-- While there are samples the start time is missing in one case only: all samples were dropped while a recording was
active, and no start has succeeded since. -/
theorem startTime_eq_none_iff (settings : Settings) (ops : List Op) :
    let s₀ : Session := { settings }
    let s := s₀.after ops
    s.samples ≠ [] → (s.stats.startTime = none ↔
      ∃ before later, ops = before ++ .clear :: later ∧ (s₀.after before).isRecording = true ∧
        ∀ step ∈ (s₀.after (before ++ [.clear])).steps later, step.2.starts step.1 = false) := by
  intro s₀ s hsamples
  constructor
  · intro h
    rcases clearedUnderway_or_idle settings ops h with hcleared | ⟨-, hempty⟩
    · exact hcleared
    · exact absurd hempty hsamples
  · exact startTime_of_clearedUnderway

theorem startTime_eq_none_iff_cleared :
    let s₀ : Session := { settings := { enableLabeling := false } }
    let s := s₀.after [.start 1 none, .clear, .record 2 ⟨2, "7", .empty⟩ none]
    s.samples ≠ [] ∧ s.stats.startTime = none := by
  intro s₀ s
  have hsamples : s.samples ≠ [] := nofun
  refine ⟨hsamples, (startTime_eq_none_iff _ _ hsamples).mpr ⟨[.start 1 none], [.record 2 _ none], rfl, rfl, ?_⟩⟩
  exact List.forall_mem_singleton.mpr rfl

/-- A recording that goes on while its samples are dropped stores samples that have no start time. -/
theorem startTime_missing :
    ¬ ∀ (settings : Settings) (ops : List Op),
      let s := ({ settings } : Session).after ops
      s.samples ≠ [] → s.stats.startTime ≠ none := by
  intro h
  have hset := h { enableLabeling := false }
    [.start 1 none, .clear, .record 2 ⟨2, "7", .empty⟩ none] nofun
  exact hset rfl

end SampleRecorder.Recording.Session
