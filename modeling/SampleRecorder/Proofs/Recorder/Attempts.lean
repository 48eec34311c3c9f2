import SampleRecorder.Proofs.Recorder.History
import SampleRecorder.Proofs.Transmit.Operation

/-!
# Attempts

Whenever a recorder has a command to send, it tries once and goes on, whatever the answer is.  Here every operation that
sends commands is put in terms of such attempts: `attempts` lists them, each with the recorder that it meets, and
`afterAttempts` is the recorder that they leave.  Nothing but the transmitter changes on the way.
-/

namespace SampleRecorder

namespace Recorder

def attempt (r : Recorder) (p : Pending) : Recorder :=
  { r with transmitter := (p.send r.transmitter).value.2 }

/-- The recorder after attempts to send commands, one after the other. -/
def afterAttempts (r : Recorder) (commands : List Pending) : Recorder :=
  commands.foldl attempt r

/-- An attempt to send a command, with the recorder as it is at that moment. -/
structure Attempt where
  recorder : Recorder
  command : Pending

/-- The attempts to send commands, one after the other. -/
def attempts (r : Recorder) : List Pending → List Attempt
  | [] => []
  | p :: commands => ⟨r, p⟩ :: (r.attempt p).attempts commands

/-- What an attempt to send a command that was held back leaves in the log: what the transmitter logs, and a warning if
it fails. -/
def Attempt.log (a : Attempt) : List Log.Event :=
  let sent := a.command.send a.recorder.transmitter
  sent.events ++
    match sent.value.1 with
    | .ok _ => []
    | .error fault =>
      [⟨.warn, "Queued command not sent",
        [("command", .str a.command.describe), ("error", .str fault.message)]⟩]

theorem afterAttempts_cons (r : Recorder) (p : Pending) (commands : List Pending) :
    r.afterAttempts (p :: commands) = (r.attempt p).afterAttempts commands := rfl

theorem afterAttempts_eq (r : Recorder) (commands : List Pending) :
    r.afterAttempts commands = { r with transmitter := (r.afterAttempts commands).transmitter } := by
  induction commands generalizing r with
  | nil => rfl
  | cons p commands ih =>
    rw [afterAttempts_cons, ih]
    rfl

theorem session_afterAttempts (r : Recorder) (commands : List Pending) :
    (r.afterAttempts commands).session = r.session := by
  rw [afterAttempts_eq]

@[simp] theorem pending_afterAttempts (r : Recorder) (commands : List Pending) :
    (r.afterAttempts commands).pending = r.pending := by
  rw [afterAttempts_eq]

/-- A failed attempt leaves everything as it was, but that the port has answered if it was asked. -/
theorem attempt_of_error {r : Recorder} {p : Pending} {fault : Transmit.Fault}
    (h : (p.send r.transmitter).value.1 = .error fault) :
    r.attempt p = { r with transmitter := { r.transmitter with port := p.portAfter r.transmitter } } := by
  have hsame : (p.send r.transmitter).value.2 = { r.transmitter with port := p.portAfter r.transmitter } := by
    cases hc : p.text? r.transmitter.settings with
    | none =>
      rw [Pending.value_send_of_no_text hc, Pending.portAfter_of_not_handed (Pending.handed_of_no_text hc)]
    | some content => exact (Transmit.Transmitter.value_send_of_error hc h).1
  rw [attempt, hsame]

/-- Every command is tried, once and in order. -/
theorem map_command_attempts (r : Recorder) (commands : List Pending) :
    (r.attempts commands).map (·.command) = commands := by
  induction commands generalizing r with
  | nil => rfl
  | cons p commands ih => rw [attempts, List.map_cons, ih]

/-- The recording goes on as it was while commands are tried. -/
theorem session_of_mem_attempts {r : Recorder} {commands : List Pending} {a : Attempt}
    (h : a ∈ r.attempts commands) : a.recorder.session = r.session := by
  induction commands generalizing r with
  | nil => cases h
  | cons p commands ih =>
    rcases List.mem_cons.mp h with rfl | h
    · rfl
    · have hrest := ih h
      exact hrest

/-! ### Commands that were held back -/

theorem transmitter_sendAll (r : Recorder) (commands : List Pending) :
    (Pending.sendAll commands r.transmitter).value = (r.afterAttempts commands).transmitter := by
  induction commands generalizing r with
  | nil => rfl
  | cons p commands ih =>
    simp only [Pending.sendAll, Traced.value_bind]
    rw [afterAttempts_cons, ← ih]
    cases (p.send r.transmitter).value.1 <;> rfl

theorem events_sendAll (r : Recorder) (commands : List Pending) :
    (Pending.sendAll commands r.transmitter).events = (r.attempts commands).flatMap Attempt.log := by
  induction commands generalizing r with
  | nil => rfl
  | cons p commands ih =>
    simp only [Pending.sendAll, Traced.events_bind]
    rw [attempts, List.flatMap_cons, ← ih, Attempt.log]
    dsimp only
    cases (p.send r.transmitter).value.1 with
    | ok _ => simp [attempt]
    | error fault => simp [attempt, Traced.log]

/-! ### Operations in terms of attempts -/

/-- A line sends nothing, and neither starts nor ends a recording. -/
theorem takeLine_eq (r : Recorder) (now : Int) (text : String) :
    ∃ session, (r.takeLine now text).value.2 = { r.remember text with session } ∧
      session.isRecording = r.session.isRecording := by
  have hstore (data : Reading) (label : Option String) :
      ∃ session, ((r.remember text).store now data label).2 = { r.remember text with session } ∧
        session.isRecording = r.session.isRecording := by
    cases hr : (r.remember text).session.isRecording with
    | true =>
      rw [store, Recording.Session.record_of_isRecording hr]
      exact ⟨_, rfl, rfl⟩
    | false =>
      rw [store, Recording.Session.record_of_not_isRecording hr]
      exact ⟨_, rfl, rfl⟩
  simp only [takeLine, Traced.value_bind]
  split
  · exact ⟨_, rfl, rfl⟩
  · simp only [Traced.value_bind]
    split
    · exact ⟨_, rfl, rfl⟩
    · exact ⟨_, rfl, rfl⟩
    · exact hstore _ _
    · exact hstore _ _

def startCommands (classId : Option String) : List Pending :=
  .automated .recordingStart :: classId.toList.map .classCommand

theorem value_automate (r : Recorder) (trigger : Transmit.Trigger) :
    (r.automate trigger).value = if r.transmitter.settings.enabled then r.attempt (.automated trigger) else r := by
  unfold automate
  split
  · simp only [Traced.value_bind]
    split <;> rfl
  · rfl

theorem session_automate (r : Recorder) (trigger : Transmit.Trigger) :
    (r.automate trigger).value.session = r.session :=
  (sends_automate r trigger).session

@[simp] theorem pending_automate (r : Recorder) (trigger : Transmit.Trigger) :
    (r.automate trigger).value.pending = r.pending := by
  rw [value_automate]
  split <;> rfl

theorem value_sendClass (r : Recorder) (classId : String) :
    (r.sendClass classId).value = r.attempt (.classCommand classId) := by
  simp only [sendClass, Traced.value_bind]
  split <;> rfl

/-- The commands of a start are tried at once, or held back until the source is connected. -/
theorem value_announceStart (r : Recorder) (classId : Option String) :
    (r.announceStart classId).value =
      if r.transmitter.settings.enabled then
        if r.status = .connected then r.afterAttempts (startCommands classId)
        else { r with pending := r.pending ++ startCommands classId }
      else r := by
  unfold announceStart
  cases he : r.transmitter.settings.enabled with
  | false => rfl
  | true =>
    by_cases hs : r.status = .connected
    · rw [if_pos hs, if_neg (not_not_intro hs)]
      have hstart := value_automate r .recordingStart
      rw [if_pos he] at hstart
      cases classId with
      | none => simp [hstart, startCommands, afterAttempts]
      | some c => simp [hstart, value_sendClass, startCommands, afterAttempts]
    · rw [if_neg hs, if_pos hs]
      cases classId <;> simp [startCommands, queue]

theorem value_start (r : Recorder) (now : Int) (classId : Option String) :
    (r.start now classId).value =
      let begun := { r with session := (r.session.start now classId).value.2 }
      if (r.session.start now classId).value.1 then (true, (begun.announceStart classId).value)
      else (false, begun) := by
  simp only [start, Traced.value_bind]
  split <;> rfl

theorem value_stop (r : Recorder) :
    r.stop.value =
      let ended := { r with session := r.session.stop.value }
      if r.session.isRecording then (ended.automate .recordingStop).value else ended := by
  simp only [stop, Traced.value_bind]
  split <;> rfl

theorem value_takeEvent_autoStop (r : Recorder) (now : Int) (generation : Nat) (stopOnAutoStop : Bool) :
    (r.takeEvent now stopOnAutoStop (.autoStop generation)).value.2 =
      let ended := { r with session := (r.session.expire generation).value.2 }
      if (r.session.expire generation).value.1 then (ended.automate .recordingStop).value else ended := by
  simp only [takeEvent, Traced.value_bind]
  split <;> rfl

/-- The recorder that has taken note of a connection and sent the command of this event. -/
def greeted (r : Recorder) (message : Option String) : Traced Recorder :=
  automate { r with status := .connected, statusMessage := message } .connect

/-- After the command of a connection every command that was held back is tried, once and in order. -/
theorem value_setStatus_connected (r : Recorder) (message : Option String) :
    (r.setStatus .connected message).value =
      { (r.greeted message).value.afterAttempts r.pending with pending := [] } := by
  have hpending : (r.greeted message).value.pending = r.pending := pending_automate _ _
  calc (r.setStatus .connected message).value
      = { (r.greeted message).value with
          transmitter :=
            (Pending.sendAll (r.greeted message).value.pending (r.greeted message).value.transmitter).value
          pending := [] } := rfl
    _ = { (r.greeted message).value.afterAttempts r.pending with pending := [] } := by
      rw [transmitter_sendAll, hpending, afterAttempts_eq]

theorem apply_connection (r : Recorder) (now : Int) (message : Option String) (stopOnAutoStop : Bool) :
    Op.apply r (.run now [.status .connected message] stopOnAutoStop) =
      { (r.greeted message).value.afterAttempts r.pending with pending := [] } := by
  rw [apply_run_singleton]
  exact value_setStatus_connected r message

theorem events_setStatus_connected (r : Recorder) (message : Option String) :
    (r.setStatus .connected message).events =
      (r.greeted message).events ++ ((r.greeted message).value.attempts r.pending).flatMap Attempt.log := by
  have hpending : (r.greeted message).value.pending = r.pending := pending_automate _ _
  have hevents : (r.setStatus .connected message).events =
      (r.greeted message).events ++
        ((Pending.sendAll (r.greeted message).value.pending (r.greeted message).value.transmitter).events ++ []) := rfl
  rw [hevents, List.append_nil, events_sendAll, hpending]

theorem value_setStatus_of_ne {status : Source.Status} (h : status ≠ .connected) (r : Recorder)
    (message : Option String) :
    (r.setStatus status message).value = { r with status, statusMessage := message } := by
  simp only [setStatus, Traced.value_bind]
  rw [if_neg h]
  rfl

end Recorder

end SampleRecorder
