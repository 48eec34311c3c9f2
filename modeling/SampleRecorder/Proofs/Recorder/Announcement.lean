import SampleRecorder.Proofs.Recorder.Active
import SampleRecorder.Proofs.Recorder.Queue

/-!
# The commands of a start

When a recording starts, its commands are sent at once, or at the next connection if there is none yet.  The commands
name the class as it was given, while the session takes it without the blanks around it: the two agree exactly if there
are none (`startCommands_agree_iff`).  Commands that are sent at once are sent while the recording is active; those that
had to wait are sent whether it still is or not (`startCommands_after`), since the end of a recording does not take them
back.
-/

namespace SampleRecorder

namespace Recording.Session

theorem chosen?_eq_self_iff (classId : Option String) :
    chosen? classId = classId ↔ ∀ c ∈ classId, c ≠ "" ∧ Text.trim c.toList = c.toList := by
  cases classId with
  | none => simp [chosen?]
  | some c =>
    simp only [chosen?, Option.bind_some, Option.mem_some_iff, forall_eq']
    constructor
    · intro h
      split at h
      · cases h
      · next hne =>
        have hc : String.ofList (Text.trim c.toList) = c := Option.some.inj h
        have htrim : Text.trim c.toList = c.toList := by
          conv => rhs; rw [← hc]
          rw [String.toList_ofList]
        refine ⟨?_, htrim⟩
        rintro rfl
        exact hne rfl
    · rintro ⟨hne, htrim⟩
      rw [htrim]
      split
      · next hnil => exact absurd (String.toList_eq_nil_iff.mp hnil) hne
      · rw [String.ofList_toList]

end Recording.Session

namespace Recorder

open Recording.Session (chosen? chosen?_eq_self_iff)

theorem startCommands_injective {a b : Option String} (h : startCommands a = startCommands b) : a = b := by
  cases a <;> cases b <;> simp_all [startCommands]

/-- What a start does that the session accepts: its commands are tried at once, or wait. -/
theorem apply_start {r : Recorder} {now : Int} {classId : Option String}
    (hs : (r.session.start now classId).value.1 = true) (he : r.transmitter.settings.enabled = true) :
    let begun : Recorder := { r with session := (r.session.start now classId).value.2 }
    (r.start now classId).value =
      (true,
        if r.status = .connected then begun.afterAttempts (startCommands classId)
        else { begun with pending := r.pending ++ startCommands classId }) := by
  intro begun
  rw [value_start]
  dsimp only
  rw [if_pos hs, value_announceStart, if_pos he]

theorem pending_apply_start {r : Recorder} {now : Int} {classId : Option String}
    (hs : (r.session.start now classId).value.1 = true) (he : r.transmitter.settings.enabled = true)
    (hc : r.status ≠ .connected) :
    (Op.apply r (.start now classId)).pending = r.pending ++ startCommands classId := by
  rw [Op.apply, apply_start hs he, if_neg hc]

/-! ### The commands of a start -/

/-- The commands of a start are for the class that the recording is labelled with exactly if the class was given
without blanks around it, and not as an empty text. -/
theorem startCommands_agree_iff {r : Recorder} {classId : Option String} (now : Int)
    (he : r.transmitter.settings.enabled = true) (hs : (r.start now classId).value.1 = true) :
    let begun : Recorder := { r with session := (r.session.start now classId).value.2 }
    let started := (r.start now classId).value.2
    (r.status = .connected → started = begun.afterAttempts (startCommands classId)) ∧
      (r.status ≠ .connected → started.pending = r.pending ++ startCommands classId) ∧
      started.session.currentClass = chosen? classId ∧
      (startCommands started.session.currentClass = startCommands classId ↔
        ∀ c ∈ classId, c ≠ "" ∧ Text.trim c.toList = c.toList) := by
  intro begun started
  have haccepted : (r.session.start now classId).value.1 = true := by
    rw [value_start] at hs
    dsimp only at hs
    split at hs
    · next h => exact h
    · cases hs
  have hstarted : started =
      if r.status = .connected then begun.afterAttempts (startCommands classId)
      else { begun with pending := r.pending ++ startCommands classId } :=
    congrArg Prod.snd (apply_start haccepted he)
  have hclass : started.session.currentClass = chosen? classId := by
    have hsession : started.session = begun.session := by
      rw [hstarted]
      split
      · exact session_afterAttempts _ _
      · rfl
    rw [hsession]
    exact (started_session haccepted).2
  refine ⟨fun hconnected => ?_, fun hconnected => ?_, hclass, ?_⟩
  · rw [hstarted, if_pos hconnected]
  · rw [hstarted, if_neg hconnected]
  · rw [hclass, ← chosen?_eq_self_iff]
    exact ⟨startCommands_injective, congrArg startCommands⟩

theorem startCommands_agree_iff_blank :
    ∃ r₀ : Recorder,
      let started := (r₀.start 1 (some " a")).value
      (new { transmit := { enabled := true } }).value = .ok r₀ ∧ r₀.transmitter.settings.enabled = true ∧
        started.1 = true ∧ started.2.pending = r₀.pending ++ startCommands (some " a") ∧
        startCommands started.2.session.currentClass ≠ startCommands (some " a") := by
  refine ⟨_, rfl, rfl, rfl, (startCommands_agree_iff 1 rfl rfl).2.1 (by decide), fun hsame => ?_⟩
  have hblank := (startCommands_agree_iff 1 rfl rfl).2.2.2.mp hsame
  exact absurd (hblank " a" rfl) (by decide +kernel)

/-- A class that is given with a blank before it is announced by the command of another class. -/
theorem other_class_announced :
    ∃ r₀ : Recorder,
      let transmit : Transmit.Settings :=
        { enabled := true, classCommands := [⟨"a", "ONE", true⟩, ⟨" a", "TWO", true⟩] }
      let started := ((r₀.after [.attach {}, .run 0 [.status .connected none] false]).start 1 (some " a")).value
      (new { transmit }).value = .ok r₀ ∧ started.1 = true ∧ started.2.session.currentClass = some "a" ∧
        (Pending.classCommand "a").text? transmit = some "ONE" ∧
        started.2.transmitter.sent.map (·.text) = ["TWO"] :=
  ⟨_, rfl, rfl, by decide +kernel, by decide +kernel, by decide +kernel⟩

/-- The commands of a start are tried at once, while its recording is active, or wait for the first connection behind
it.  Then they are tried whatever has become of the recording: one is active at that moment exactly if the latest start
has not been ended since. -/
theorem startCommands_after (r₀ : Recorder) (ops : List Op) :
    (∀ step ∈ r₀.history ops, ∀ now classId, step.2 = .start now classId → step.2.starts step.1 = true →
        step.1.transmitter.settings.enabled = true → step.1.status = .connected →
        let begun : Recorder := { step.1 with session := (step.1.session.start now classId).value.2 }
        step.2.apply step.1 = begun.afterAttempts (startCommands classId) ∧
          ∀ a ∈ begun.attempts (startCommands classId),
            a.recorder.session.isRecording = true ∧ a.recorder.session.currentClass = chosen? classId) ∧
      ∀ before start between connection later now classId now' message stopOnAutoStop,
        r₀.history ops = before ++ start :: (between ++ connection :: later) →
        start.2 = .start now classId → start.2.starts start.1 = true →
        start.1.transmitter.settings.enabled = true → start.1.status ≠ .connected →
        (∀ step ∈ between, step.2.empties = false) →
        connection.2 = .run now' [.status .connected message] stopOnAutoStop →
        let greeted := (connection.1.greeted message).value
        connection.2.apply connection.1 = { greeted.afterAttempts connection.1.pending with pending := [] } ∧
          (∃ front back, connection.1.pending = front ++ startCommands classId ++ back) ∧
          ∀ a ∈ greeted.attempts connection.1.pending,
            a.recorder.session.isRecording = true ↔ Underway (start :: between) := by
  have hsingle : ∀ op ∈ r₀.singly ops, op.IsSingle := fun op hop => isSingle_of_mem_singly hop
  constructor
  · rintro ⟨r, op⟩ - now classId rfl hs he hconnected begun
    refine ⟨?_, fun a ha => ?_⟩
    · have happly : (r.start now classId).value.2 =
          if r.status = .connected then begun.afterAttempts (startCommands classId)
          else { begun with pending := r.pending ++ startCommands classId } :=
        congrArg Prod.snd (apply_start hs he)
      rwa [if_pos hconnected] at happly
    · rw [session_of_mem_attempts ha]
      exact started_session hs
  · intro before start between connection later now classId now' message stopOnAutoStop hsplit hstart hs he hstatus
      hbetween hconnection greeted
    -- the connection meets what the start and the operations between them (`middle`) make of the recorder
    obtain ⟨first, rest, hops, -, -, hlater⟩ := moments_eq_append hsplit
    obtain ⟨middle, last, rfl, rfl, hmeets, -⟩ := moments_eq_append hlater.symm
    have hstep : (start.2.apply start.1).pending = start.1.pending ++ startCommands classId := by
      rw [hstart] at hs ⊢
      exact pending_apply_start hs he hstatus
    have hsteps : ∀ op ∈ start.2 :: middle, op.IsSingle := by
      intro op hop
      refine hsingle op ?_
      rw [hops, ← List.cons_append]
      exact List.mem_append_right _ (List.mem_append_left _ hop)
    refine ⟨?_, ?_, fun a ha => ?_⟩
    · rw [hconnection]
      exact apply_connection _ _ _ _
    · have hmiddle : ∀ op ∈ middle, op.IsSingle := (List.forall_mem_cons.mp hsteps).2
      rw [hmeets, pending_after_of_kept hmiddle hbetween, hstep]
      exact ⟨_, _, rfl⟩
    · have hsession : a.recorder.session = (start.1.after (start.2 :: middle)).session := by
        rw [session_of_mem_attempts ha, after_cons, ← hmeets]
        exact session_automate _ _
      rw [hsession]
      exact isRecording_after_start hsteps hs

/-- The end of a recording, of whichever kind, does not take back the commands that wait for a connection. -/
theorem announced_after_end :
    ∃ r₀ : Recorder,
      (new { transmit := { enabled := true, automated := { onRecordingStart := "GO" } } }).value = .ok r₀ ∧
        ∀ ending ∈ [Op.stop, .run 2 [.autoStop 1] false],
          let ended := r₀.after [.attach {}, .start 1 (some "a"), ending]
          let connected := ended.after [.run 3 [.status .connected none] false]
          ended.session.isRecording = false ∧ ended.transmitter.sent = [] ∧
            connected.session.isRecording = false ∧ connected.transmitter.sent.map (·.text) = ["GO"] :=
  ⟨_, rfl, by decide +kernel⟩

end Recorder

end SampleRecorder
