import SampleRecorder.Proofs.Recorder.Announcement
import SampleRecorder.Proofs.Recorder.Log
import SampleRecorder.Proofs.Recording.AutoStop

/-!
# The command of the end of a recording

A recording ends by a stop, or when its time is over, and each of the two sends the command of this event.  The main
fact is that the attempts to send it and these ends go together, one by one (`stopCommands_after`): an operation that
ends no recording makes no such attempt, and one that does makes exactly one, with the recorder that is idle again.
-/

namespace SampleRecorder.Recorder

/-- Whether an operation stops the recording, or tells that the time of one is over. -/
def Op.isEnding : Op → Bool
  | .stop => true
  | .run _ [.autoStop _] _ => true
  | _ => false

/-- Whether an operation is a stop or the end of a time, and takes the recorder from recording to idle. -/
def Op.finishes (r : Recorder) (op : Op) : Bool :=
  op.isEnding && r.session.isRecording && !(op.apply r).session.isRecording

/-! ### One operation -/

theorem finishes_stop (r : Recorder) : Op.finishes r .stop = r.session.isRecording := by
  have hidle : (Op.apply r .stop).session.isRecording = false := isRecording_apply r trivial
  simp [Op.finishes, Op.isEnding, hidle]

/-- Of the times that are over, only that of the recording that is active finishes anything. -/
theorem finishes_autoStop (r : Recorder) (now : Int) (generation : Nat) (stopOnAutoStop : Bool) :
    Op.finishes r (.run now [.autoStop generation] stopOnAutoStop) = (r.session.expire generation).value.1 := by
  have happly : (Op.apply r (.run now [.autoStop generation] stopOnAutoStop)).session.isRecording =
      if (r.session.expire generation).value.1 then false else r.session.isRecording :=
    isRecording_apply r ⟨.autoStop generation, rfl⟩
  rw [Op.finishes, Op.isEnding, happly, Bool.true_and]
  cases hexpired : (r.session.expire generation).value.1 with
  | true =>
    have hrecording := ((r.session.expire_eq_true_iff generation).mp hexpired).2.1
    simp [hrecording]
  | false => simp

theorem isRecording_of_expired {s : Recording.Session} {generation : Nat}
    (h : (s.expire generation).value.1 = true) : (s.expire generation).value.2.isRecording = false := by
  rw [Recording.Session.value_expire, if_pos ((s.expire_eq_true_iff generation).mp h), Recording.Session.value_stop]

/-- The end of a recording is told once, when it is over, and nothing else is sent. -/
theorem ownAttempts_of_finishes {r : Recorder} {op : Op} (h : op.IsSingle)
    (he : r.transmitter.settings.enabled = true) (hf : op.finishes r = true) :
    ∃ session : Recording.Session,
      let ended : Recorder := { r with session }
      session.isRecording = false ∧ op.ownAttempts r = [⟨ended, .automated .recordingStop⟩] ∧
        op.apply r = ended.attempt (.automated .recordingStop) := by
  cases op with
  | stop =>
    rw [finishes_stop] at hf
    refine ⟨r.session.stop.value, ?_, ?_, ?_⟩
    · rw [Recording.Session.value_stop]
    · simp [Op.ownAttempts, triggered, hf, he]
    · simp [Op.apply, value_stop, value_automate, hf, he]
  | run now events stopOnAutoStop =>
    obtain ⟨e, rfl⟩ := h
    cases e with
    | autoStop generation =>
      rw [finishes_autoStop] at hf
      refine ⟨(r.session.expire generation).value.2, isRecording_of_expired hf, ?_, ?_⟩
      · simp [Op.ownAttempts, eventAttempts, triggered, hf, he]
      · rw [apply_run_singleton, value_takeEvent_autoStop]
        simp [value_automate, hf, he]
    | _ => cases hf
  | _ => cases hf

theorem command_ne_of_mem_triggered {r : Recorder} {trigger other : Transmit.Trigger} (h : trigger ≠ other)
    {a : Attempt} (ha : a ∈ r.triggered trigger) : a.command ≠ .automated other := by
  unfold triggered at ha
  split at ha
  · rw [List.mem_singleton.mp ha]
    simpa using h
  · cases ha

theorem not_mem_startCommands (classId : Option String) : .automated .recordingStop ∉ startCommands classId := by
  cases classId <;> simp [startCommands]

/-- Nothing but the end of a recording makes an operation send the command of this event by itself. -/
theorem not_mem_ownAttempts {r : Recorder} {op : Op} (h : op.IsSingle) (hf : op.finishes r = false) :
    ∀ a ∈ op.ownAttempts r, a.command ≠ .automated .recordingStop := by
  intro a ha
  cases op with
  | run now events stopOnAutoStop =>
    obtain ⟨e, rfl⟩ := h
    rw [Op.ownAttempts] at ha
    cases e with
    | status status message =>
      cases status with
      | connected => exact command_ne_of_mem_triggered (by decide) ha
      | _ => cases ha
    | autoStop generation =>
      rw [finishes_autoStop] at hf
      simp [eventAttempts, hf] at ha
    | _ => cases ha
  | start now classId =>
    rw [Op.ownAttempts] at ha
    split at ha
    · intro hstop
      have hcommand := List.mem_map_of_mem (f := (·.command)) ha
      rw [map_command_attempts, hstop] at hcommand
      exact not_mem_startCommands classId hcommand
    · cases ha
  | stop =>
    rw [finishes_stop] at hf
    simp [Op.ownAttempts, hf] at ha
  | detach => exact command_ne_of_mem_triggered (by decide) ha
  | send text => simp [List.mem_singleton.mp ha]
  | sendQuick id => simp [List.mem_singleton.mp ha]
  | _ => cases ha

theorem countP_ownAttempts {r : Recorder} {op : Op} (h : op.IsSingle) (he : r.transmitter.settings.enabled = true) :
    (op.ownAttempts r).countP (fun a => a.command == .automated .recordingStop) = if op.finishes r then 1 else 0 := by
  cases hf : op.finishes r with
  | true =>
    obtain ⟨session, -, hown, -⟩ := ownAttempts_of_finishes h he hf
    rw [hown]
    rfl
  | false =>
    refine List.countP_eq_zero.mpr fun a ha => ?_
    simpa using not_mem_ownAttempts h hf a ha

theorem eq_queue_of_mem_queued {r : Recorder} {op : Op} (h : .automated .recordingStop ∈ op.queued r) :
    op = .queue (.automated .recordingStop) := by
  cases op with
  | queue command => rw [List.mem_singleton.mp h]
  | start now classId =>
    simp only [Op.queued] at h
    split at h
    · exact absurd h (not_mem_startCommands classId)
    · cases h
  | _ => cases h

theorem map_command_releasedAttempts (r : Recorder) {op : Op} (h : op.IsSingle) :
    (op.releasedAttempts r).map (·.command) = if op.connects then r.pending else [] := by
  cases op with
  | run now events stopOnAutoStop =>
    obtain ⟨e, rfl⟩ := h
    cases e with
    | status status message =>
      cases status with
      | connected => exact map_command_attempts _ _
      | _ => rfl
    | _ => rfl
  | _ => rfl

/-! ### A run -/

theorem countP_flatMap_of_single {α β : Type} {f : α → List β} {p : β → Bool} {q : α → Bool} {l : List α}
    (h : ∀ a ∈ l, (f a).countP p = if q a then 1 else 0) : (l.flatMap f).countP p = l.countP q := by
  induction l with
  | nil => rfl
  | cons a l ih =>
    have hrest := ih fun b hb => h b (List.mem_cons_of_mem _ hb)
    rw [List.flatMap_cons, List.countP_append, h a List.mem_cons_self, hrest, List.countP_cons, Nat.add_comm]

/-- While the transmitter is enabled, the command of the end of a recording is attempted as often as a stop or the end
of a time takes the recorder from recording to idle, the commands that were put into the queue apart: once at each such
end, when the recording is over, and at nothing else.  The log tells of all these attempts. -/
theorem stopCommands_after (r₀ : Recorder) (ops : List Op)
    (h : ∀ step ∈ r₀.history ops, step.1.transmitter.settings.enabled = true) :
    let steps := r₀.history ops
    let own := steps.flatMap fun step => step.2.ownAttempts step.1
    let released := steps.flatMap fun step => step.2.releasedAttempts step.1
    own.countP (fun a => a.command == .automated .recordingStop) = steps.countP (fun step => step.2.finishes step.1) ∧
      (∀ step ∈ steps,
        (step.2.finishes step.1 = true → ∃ session : Recording.Session,
          let ended : Recorder := { step.1 with session }
          session.isRecording = false ∧ step.2.ownAttempts step.1 = [⟨ended, .automated .recordingStop⟩] ∧
            step.2.apply step.1 = ended.attempt (.automated .recordingStop)) ∧
        (step.2.finishes step.1 = false → ∀ a ∈ step.2.ownAttempts step.1, a.command ≠ .automated .recordingStop) ∧
        (step.2.releasedAttempts step.1).map (·.command) = (if step.2.connects then step.1.pending else []) ∧
        (.automated .recordingStop ∈ step.2.queued step.1 → step.2 = .queue (.automated .recordingStop))) ∧
      (log (r₀.moments ops)).countP (Log.Event.announces .recordingStop) =
        own.countP (Attempt.announces .recordingStop) + released.countP (Attempt.announces .recordingStop) := by
  intro steps own released
  have hsingle : ∀ step ∈ steps, step.2.IsSingle := fun step hstep =>
    isSingle_of_mem_moments (fun op hop => isSingle_of_mem_singly hop) hstep
  refine ⟨?_, fun step hstep => ⟨?_, ?_, ?_, eq_queue_of_mem_queued⟩, countP_log r₀ ops⟩
  · exact countP_flatMap_of_single fun step hstep => countP_ownAttempts (hsingle step hstep) (h step hstep)
  · exact ownAttempts_of_finishes (hsingle step hstep) (h step hstep)
  · exact not_mem_ownAttempts (hsingle step hstep)
  · exact map_command_releasedAttempts step.1 (hsingle step hstep)

/-- A second stop, a start over one that is active, times that are over for other recordings or twice, a start that is
refused, and a command that was put into the queue. -/
theorem stopCommands_after_mixed :
    ∃ r₀ : Recorder,
      let settings : Settings :=
        { recording := { autoStopSeconds := 9 }
          transmit := { enabled := true, automated := { onRecordingStop := "HALT" } } }
      let ops : List Op :=
        [.attach {}, .run 0 [.status .connected none] false, .start 1 (some "a"), .stop, .stop, .start 2 (some "b"),
          .start 3 (some "c"), .clear, .run 4 [.autoStop 1, .autoStop 2, .autoStop 3, .autoStop 3] false,
          .start 5 none, .queue (.automated .recordingStop), .run 6 [.status .connected none] false, .dispose]
      let steps := r₀.history ops
      (new settings).value = .ok r₀ ∧ steps.countP (fun step => step.2.finishes step.1) = 2 ∧
        (steps.flatMap fun step => step.2.ownAttempts step.1).countP
          (fun a => a.command == .automated .recordingStop) = 2 ∧
        (log (r₀.moments ops)).countP (Log.Event.announces .recordingStop) = 3 := by
  refine ⟨_, rfl, by decide +kernel, ?_, by decide +kernel⟩
  exact (stopCommands_after _ _ (by decide +kernel)).1.trans (by decide +kernel)

end SampleRecorder.Recorder
