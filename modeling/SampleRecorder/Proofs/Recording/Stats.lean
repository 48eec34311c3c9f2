import SampleRecorder.Proofs.Recording.Operation

/-!
# Totals and samples

The totals of a session are kept up to date with each sample and dropped with all of them.  The main fact: after any
operations they are what counting the stored samples gives (`stats_after`).
-/

namespace SampleRecorder.Recording

/-- The number of samples that are counted under a label. -/
def countOf (label : String) (samples : List Sample) : Nat :=
  samples.countP (·.countLabel == label)

theorem countOf_concat (label : String) (samples : List Sample) (sample : Sample) :
    countOf label (samples ++ [sample]) = countOf label samples + if sample.countLabel = label then 1 else 0 := by
  simp [countOf, List.countP_append, List.countP_cons]

namespace Stats

/-- Whether totals are those of some samples. -/
structure Describes (t : Stats) (samples : List Sample) : Prop where
  total : t.total = samples.length
  counts : ∀ label, t.counts.get? label = if countOf label samples = 0 then none else some (countOf label samples)
  sum : t.counts.total = samples.length
  last : t.lastSampleTime = samples.getLast?.map (·.recordedAt)

theorem describes_nil : ({} : Stats).Describes [] := ⟨rfl, fun _ => rfl, rfl, rfl⟩

/-- The start time is not about samples. -/
theorem Describes.withStartTime {t : Stats} {samples : List Sample} (h : t.Describes samples) (time : Option Int) :
    { t with startTime := time }.Describes samples :=
  ⟨h.total, h.counts, h.sum, h.last⟩

theorem Describes.getD_counts {t : Stats} {samples : List Sample} (h : t.Describes samples) (label : String) :
    (t.counts.get? label).getD 0 = countOf label samples := by
  rw [h.counts]
  split
  · next hz => rw [hz, Option.getD_none]
  · rfl

theorem Describes.add {t : Stats} {samples : List Sample} (h : t.Describes samples) (sample : Sample) :
    (t.add sample).Describes (samples ++ [sample]) := by
  have hold := h.getD_counts sample.countLabel
  constructor
  · simp [Stats.add, h.total]
  · intro label
    simp only [Stats.add, countUp, Dict.get?_insert, countOf_concat, hold]
    by_cases hl : label = sample.countLabel
    · simp [hl]
    · rw [if_neg hl, if_neg (Ne.symm hl), Nat.add_zero, h.counts]
  · have hsum := t.counts.total_insert sample.countLabel (countOf sample.countLabel samples + 1)
    rw [hold, h.sum] at hsum
    simp only [Stats.add, countUp, hold, List.length_append, List.length_singleton]
    omega
  · simp [Stats.add]

end Stats

namespace Session

/-- Whether the totals of a session are those of its samples. -/
def IsCounted (s : Session) : Prop :=
  s.stats.Describes s.samples

theorem isCounted_record {s : Session} (h : s.IsCounted) (now : Int) (data : Reading) (label : Option String) :
    (s.record now data label).2.IsCounted := by
  cases hr : s.isRecording with
  | true =>
    rw [record_of_isRecording hr]
    exact h.add _
  | false =>
    rw [record_of_not_isRecording hr]
    exact h

theorem isCounted_stop {s : Session} (h : s.IsCounted) : s.stop.value.IsCounted := by
  rw [value_stop]
  exact h

theorem isCounted_apply (s : Session) (op : Op) (h : s.IsCounted) : (op.apply s).IsCounted := by
  cases op with
  | start now classId =>
    simp only [Op.apply, value_start]
    split
    · exact h
    · exact h.withStartTime _
  | stop => exact isCounted_stop h
  | record now data label => exact isCounted_record h now data label
  | clear => exact Stats.describes_nil
  | configure settings => exact h
  | expire generation =>
    simp only [Op.apply, value_expire]
    split
    · exact isCounted_stop h
    · exact h
  | dispose => exact isCounted_stop h

/-- After any operations the total is the number of samples, the count of a label is the number of samples with it, no
label is listed without a sample, the counts add up to the total, and the last time is that of the last sample. -/
theorem stats_after (settings : Settings) (ops : List Op) :
    let s := ({ settings } : Session).after ops
    s.stats.total = s.samples.length ∧
      (∀ label, (s.stats.counts.get? label).getD 0 = countOf label s.samples) ∧
      (∀ entry ∈ s.stats.counts.entries, 0 < entry.2) ∧
      s.stats.counts.total = s.stats.total ∧
      s.stats.lastSampleTime = s.samples.getLast?.map (·.recordedAt) ∧
      (s.stats.lastSampleTime = none ↔ s.samples = []) := by
  intro s
  have hnew : ({ settings } : Session).IsCounted := Stats.describes_nil
  have h : s.IsCounted := after_induction isCounted_apply hnew ops
  refine ⟨h.total, h.getD_counts, ?_, h.sum.trans h.total.symm, h.last, ?_⟩
  · rintro ⟨label, n⟩ hmem
    rw [Dict.mem_entries_iff, h.counts] at hmem
    split at hmem
    · cases hmem
    · next hne =>
      cases hmem
      exact Nat.pos_of_ne_zero hne
  · rw [h.last]
    simp

end Session

end SampleRecorder.Recording
