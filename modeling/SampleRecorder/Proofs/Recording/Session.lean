import SampleRecorder.Recording.Session

/-!
# Operations on a session

What each operation makes of a session, the logged events apart.  Every other fact about them is read off these
equations.
-/

namespace SampleRecorder.Recording.Session

/-- A start is refused when labeling wants a class and none is chosen. -/
theorem value_start (s : Session) (now : Int) (classId : Option String) :
    (s.start now classId).value =
      if s.settings.enableLabeling && (chosen? classId).isNone then (false, s)
      else (true,
        { s with
          isRecording := true
          currentClass := chosen? classId
          stats := { s.stats with startTime := some (s.stats.startTime.getD now) }
          generation := s.generation + 1
          isArmed := decide (0 < s.settings.autoStopSeconds) }) := by
  unfold start
  dsimp only
  split <;> rfl

theorem start_of_refused {s : Session} {now : Int} {classId : Option String}
    (h : (s.start now classId).value.1 = false) : (s.start now classId).value = (false, s) := by
  rw [value_start] at h ⊢
  split at h
  · next hc => rw [if_pos hc]
  · cases h

theorem value_stop (s : Session) :
    s.stop.value =
      { s with
        isRecording := false
        currentClass := if s.isRecording then none else s.currentClass
        isArmed := false } := by
  unfold stop
  cases s.isRecording <;> rfl

/-- Only the end of the time of the latest start ends a recording, and only while it is armed. -/
theorem value_expire (s : Session) (generation : Nat) :
    (s.expire generation).value =
      if generation = s.generation ∧ s.isRecording ∧ s.isArmed then (true, s.stop.value) else (false, s) := by
  unfold expire
  split <;> rfl

theorem value_configure (s : Session) (settings : Settings) :
    (s.configure settings).value = { s with settings, isArmed := false } := rfl

theorem value_clear (s : Session) : s.clear.value = { s with samples := [], stats := {} } := rfl

theorem record_of_isRecording {s : Session} (h : s.isRecording = true) (now : Int) (data : Reading)
    (label : Option String) :
    s.record now data label =
      (some (s.sampleOf now data label),
        { s with
          samples := s.samples ++ [s.sampleOf now data label]
          stats := s.stats.add (s.sampleOf now data label) }) := by
  rw [record, if_pos h]

theorem record_of_not_isRecording {s : Session} (h : s.isRecording = false) (now : Int) (data : Reading)
    (label : Option String) : s.record now data label = (none, s) := by
  rw [record, if_neg (by simp [h])]

/-! ### What starts and ends leave alone -/

@[simp] theorem settings_start (s : Session) (now : Int) (classId : Option String) :
    (s.start now classId).value.2.settings = s.settings := by
  rw [value_start]
  split <;> rfl

@[simp] theorem samples_start (s : Session) (now : Int) (classId : Option String) :
    (s.start now classId).value.2.samples = s.samples := by
  rw [value_start]
  split <;> rfl

@[simp] theorem settings_stop (s : Session) : s.stop.value.settings = s.settings := by
  rw [value_stop]

@[simp] theorem samples_stop (s : Session) : s.stop.value.samples = s.samples := by
  rw [value_stop]

@[simp] theorem settings_expire (s : Session) (generation : Nat) :
    (s.expire generation).value.2.settings = s.settings := by
  rw [value_expire]
  split
  · exact settings_stop s
  · rfl

@[simp] theorem samples_expire (s : Session) (generation : Nat) :
    (s.expire generation).value.2.samples = s.samples := by
  rw [value_expire]
  split
  · exact samples_stop s
  · rfl

end SampleRecorder.Recording.Session
