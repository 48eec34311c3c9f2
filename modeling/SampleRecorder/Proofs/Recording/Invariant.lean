import SampleRecorder.Proofs.Recording.Operation
import SampleRecorder.Proofs.Text.Trim

/-!
# Parts of a session that agree

A session says in four parts of its state what goes on: whether it records, under which class, by which settings, and
whether the recording will end by itself.  Operations change them together, so that they agree in every state that a run
comes to (`isCoherent_after`): only an active recording has a class or an end in time, and with labeling it has a class.
-/

namespace SampleRecorder.Recording.Session

/-! ### Classes -/

theorem chosen?_some (c : String) :
    chosen? (some c) = if Text.trim c.toList = [] then none else some (String.ofList (Text.trim c.toList)) := by
  simp only [chosen?, Option.bind_some]
  cases Text.trim c.toList <;> rfl

/-- No class is chosen if there is none, or a blank one. -/
theorem chosen?_eq_none_iff (classId : Option String) :
    chosen? classId = none ↔ ∀ c ∈ classId, ∀ x ∈ c.toList, Text.isBlank x = true := by
  cases classId with
  | none => simp [chosen?]
  | some c => simp [chosen?_some, Text.trim_eq_nil_iff]

/-- A class that is chosen is not blank. -/
theorem exists_not_blank_of_chosen? {classId : Option String} {c : String} (h : chosen? classId = some c) :
    ∃ x ∈ c.toList, Text.isBlank x = false := by
  cases classId with
  | none => cases h
  | some given =>
    rw [chosen?_some] at h
    split at h
    · cases h
    · next hne =>
      cases h
      rw [String.toList_ofList]
      have htrimmed : ¬Text.trim (Text.trim given.toList) = [] := by rwa [Text.trim_trim]
      rw [Text.trim_eq_nil_iff] at htrimmed
      simpa using htrimmed

/-! ### Starts that are refused -/

/-- A start is refused exactly if labeling wants a class and there is none, or a blank one. -/
theorem start_eq_false_iff (s : Session) (now : Int) (classId : Option String) :
    (s.start now classId).value.1 = false ↔
      s.settings.enableLabeling = true ∧ ∀ c ∈ classId, ∀ x ∈ c.toList, Text.isBlank x = true := by
  rw [value_start, ← chosen?_eq_none_iff, ← Option.isNone_iff_eq_none, ← Bool.and_eq_true]
  split
  · next h => simp [h]
  · next h => simp [h]

/-! ### One operation -/

/-- A session whose parts agree: a recording that is not active has neither an end in time nor a class. -/
structure IsCoherent (s : Session) : Prop where
  armed : s.isArmed = true → s.isRecording = true ∧ 0 < s.settings.autoStopSeconds
  idle : s.isRecording = false → s.currentClass = none

theorem IsCoherent.stop {s : Session} (h : s.IsCoherent) : s.stop.value.IsCoherent := by
  rw [value_stop]
  refine ⟨nofun, fun _ => ?_⟩
  cases hr : s.isRecording with
  | true => rfl
  | false => exact h.idle hr

theorem IsCoherent.apply (s : Session) (op : Op) (h : s.IsCoherent) : (op.apply s).IsCoherent := by
  cases op with
  | start now classId =>
    simp only [Op.apply, value_start]
    split
    · exact h
    · exact ⟨fun harmed => ⟨rfl, of_decide_eq_true harmed⟩, nofun⟩
  | stop => exact h.stop
  | record now data label =>
    cases hr : s.isRecording with
    | true =>
      simp only [Op.apply, record_of_isRecording hr]
      exact ⟨h.armed, h.idle⟩
    | false =>
      simp only [Op.apply, record_of_not_isRecording hr]
      exact h
  | clear => exact ⟨h.armed, h.idle⟩
  -- the settings may change under a recording, but its end in time goes with them
  | configure settings => exact ⟨nofun, h.idle⟩
  | expire generation =>
    simp only [Op.apply, value_expire]
    split
    · exact h.stop
    · exact h
  | dispose => exact h.stop

/-- With labeling a recording has a class, and it is not blank. -/
def IsLabeled (s : Session) : Prop :=
  s.settings.enableLabeling = true ∧
    (s.isRecording = true → ∃ c, s.currentClass = some c ∧ ∃ x ∈ c.toList, Text.isBlank x = false)

theorem isLabeled_stop {s : Session} (h : s.settings.enableLabeling = true) : s.stop.value.IsLabeled := by
  rw [value_stop]
  exact ⟨h, nofun⟩

theorem isLabeled_start {s : Session} {now : Int} {classId : Option String}
    (h : s.settings.enableLabeling = true) (hs : (s.start now classId).value.1 = true) :
    (s.start now classId).value.2.IsLabeled := by
  rw [value_start] at hs ⊢
  split at hs
  · cases hs
  · next hc =>
    rw [if_neg hc]
    obtain ⟨c, hchosen⟩ : ∃ c, chosen? classId = some c := by
      rw [h, Bool.true_and, Option.isNone_iff_eq_none] at hc
      exact Option.ne_none_iff_exists'.mp hc
    exact ⟨h, fun _ => ⟨c, hchosen, exists_not_blank_of_chosen? hchosen⟩⟩

/-- Every operation but a change of settings leaves a labeled session labeled. -/
theorem IsLabeled.apply {s : Session} (h : s.IsLabeled) {op : Op} (hop : ∀ settings, op ≠ .configure settings) :
    (op.apply s).IsLabeled := by
  cases op with
  | start now classId =>
    cases hs : (s.start now classId).value.1 with
    | true => exact isLabeled_start h.1 hs
    | false =>
      rw [Op.apply, start_of_refused hs]
      exact h
  | stop => exact isLabeled_stop h.1
  | record now data label =>
    cases hr : s.isRecording with
    | true =>
      simp only [Op.apply, record_of_isRecording hr]
      exact ⟨h.1, h.2⟩
    | false =>
      simp only [Op.apply, record_of_not_isRecording hr]
      exact h
  | clear => exact ⟨h.1, h.2⟩
  | configure settings => exact absurd rfl (hop settings)
  | expire generation =>
    simp only [Op.apply, value_expire]
    split
    · exact isLabeled_stop h.1
    · exact h
  | dispose => exact isLabeled_stop h.1

/-! ### Runs -/

theorem IsLabeled.after {s : Session} (h : s.IsLabeled) {ops : List Op} (hops : ∀ settings, .configure settings ∉ ops) :
    (s.after ops).IsLabeled := by
  induction ops generalizing s with
  | nil => exact h
  | cons op ops ih =>
    have hop : (op.apply s).IsLabeled := h.apply fun settings hs => hops settings (by rw [hs]; exact List.mem_cons_self)
    exact ih hop fun settings hs => hops settings (List.mem_cons_of_mem _ hs)

/-- After any operations a session that is to end its recording by itself has an active one, and settings with a time;
without a recording it has no class; and a recording that was started with labeling, if the settings have not been
changed since, has a class that is not blank.  A start is refused exactly if labeling wants a class and none is given,
or a blank one, and then it leaves the session as it was, with its recording and the end of it. -/
theorem isCoherent_after (settings : Settings) (ops : List Op) :
    let s₀ : Session := { settings }
    let s := s₀.after ops
    (s.isArmed = true → s.isRecording = true ∧ 0 < s.settings.autoStopSeconds) ∧
      (s.isRecording = false → s.currentClass = none) ∧
      (∀ before now classId later, ops = before ++ .start now classId :: later →
        (s₀.after before).settings.enableLabeling = true → ((s₀.after before).start now classId).value.1 = true →
        (∀ settings, .configure settings ∉ later) → s.isRecording = true →
        ∃ c, s.currentClass = some c ∧ ∃ x ∈ c.toList, Text.isBlank x = false) ∧
      ∀ now classId,
        ((s.start now classId).value.1 = false ↔
          s.settings.enableLabeling = true ∧ ∀ c ∈ classId, ∀ x ∈ c.toList, Text.isBlank x = true) ∧
        ((s.start now classId).value.1 = false → (s.start now classId).value.2 = s) := by
  intro s₀ s
  have hnew : s₀.IsCoherent := ⟨nofun, fun _ => rfl⟩
  have h : s.IsCoherent := after_induction IsCoherent.apply hnew ops
  refine ⟨h.armed, h.idle, ?_, fun now classId => ⟨start_eq_false_iff s now classId, fun hs => ?_⟩⟩
  · intro before now classId later hops hlabeling hs hlater
    have hlabeled : ((s₀.after (before ++ [.start now classId])).after later).IsLabeled := by
      refine IsLabeled.after ?_ hlater
      rw [after_append]
      exact isLabeled_start hlabeling hs
    have hsame : (s₀.after (before ++ [.start now classId])).after later = s := by
      rw [← after_append, List.append_assoc, List.singleton_append, ← hops]
    rw [hsame] at hlabeled
    exact hlabeled.2
  · rw [start_of_refused hs]

/-- A restart without a class is refused while a recording is active, which keeps its class and its end in time. -/
example :
    let s := ({ settings := {} } : Session).after [.start 0 (some " a "), .start 1 (some " ")]
    s.isRecording = true ∧ s.currentClass = some "a" ∧ (s.expire 1).value.1 = true := by
  decide +kernel

end SampleRecorder.Recording.Session
