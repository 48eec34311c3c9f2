import Mathlib.Data.List.DropRight
import SampleRecorder.Proofs.Recorder.Attempts

/-!
# Commands that are held back

Which commands wait for a connection.  An operation puts commands into the queue (`Op.queued`) or empties it
(`Op.empties`), and no operation does anything else to it (`pending_apply`).  So the commands that wait are those that
were put there since the queue was last emptied (`waiting`), and the main fact is that each of them is tried once, at
the first connection behind it, unless the recorder is disposed of before (`queue_after`).
-/

namespace SampleRecorder.Recorder

/-- The commands that an operation holds back. -/
def Op.queued (r : Recorder) : Op → List Pending
  | .queue command => [command]
  | .start now classId =>
    if (r.session.start now classId).value.1 ∧ r.transmitter.settings.enabled ∧ r.status ≠ .connected then
      startCommands classId
    else []
  | _ => []

/-- Whether an operation tells of a connection. -/
def Op.connects : Op → Bool
  | .run _ [.status .connected _] _ => true
  | _ => false

/-- Whether an operation empties the queue: it tells of a connection, or disposes of the recorder. -/
def Op.empties : Op → Bool
  | .dispose => true
  | op => op.connects

/-- The commands that wait after the steps of a run: those that were held back since the queue was last emptied. -/
def waiting (steps : List (Recorder × Op)) : List Pending :=
  (steps.rtakeWhile fun step => !step.2.empties).flatMap fun step => step.2.queued step.1

/-! ### One operation -/

theorem pending_takeLine (r : Recorder) (now : Int) (text : String) :
    (r.takeLine now text).value.2.pending = r.pending := by
  obtain ⟨session, h, -⟩ := takeLine_eq r now text
  rw [h]
  rfl

theorem transmitter_takeLine (r : Recorder) (now : Int) (text : String) :
    (r.takeLine now text).value.2.transmitter = r.transmitter := by
  obtain ⟨session, h, -⟩ := takeLine_eq r now text
  rw [h]
  rfl

theorem pending_takeEvent {e : Event} (h : ∀ message, e ≠ .status .connected message) (r : Recorder) (now : Int)
    (stopOnAutoStop : Bool) : (r.takeEvent now stopOnAutoStop e).value.2.pending = r.pending := by
  cases e with
  | line text => exact pending_takeLine r now text
  | status status message =>
    have hstatus : status ≠ .connected := fun hs => h message (by rw [hs])
    have hv := value_setStatus_of_ne hstatus r message
    simp only [takeEvent, Traced.value_bind, hv]
    rfl
  | autoStop generation =>
    rw [value_takeEvent_autoStop]
    dsimp only
    split
    · exact pending_automate _ _
    · rfl
  | sourceClosed => rfl
  | shutdown => rfl

theorem pending_start (r : Recorder) (now : Int) (classId : Option String) :
    (r.start now classId).value.2.pending = r.pending ++ Op.queued r (.start now classId) := by
  rw [value_start]
  dsimp only
  cases hs : (r.session.start now classId).value.1 with
  | false => simp [Op.queued, hs]
  | true =>
    simp only [↓reduceIte, value_announceStart, Op.queued, hs, true_and]
    cases he : r.transmitter.settings.enabled with
    | false => simp
    | true => by_cases hc : r.status = .connected <;> simp [hc]

theorem eq_connected_of_connects {now : Int} {e : Event} {stopOnAutoStop : Bool}
    (h : Op.connects (.run now [e] stopOnAutoStop) = true) : ∃ message, e = .status .connected message := by
  unfold Op.connects at h
  split at h
  · next heq =>
    cases heq
    exact ⟨_, rfl⟩
  · cases h

/-- An operation puts its commands behind those that wait, or leaves none. -/
theorem pending_apply (r : Recorder) {op : Op} (h : op.IsSingle) :
    (op.apply r).pending = if op.empties then [] else r.pending ++ op.queued r := by
  have hkept {pending : List Pending} (hp : pending = r.pending) : pending = r.pending ++ [] := by
    rw [hp, List.append_nil]
  cases op with
  | line now text => exact hkept (pending_takeLine r now text)
  | run now events stopOnAutoStop =>
    obtain ⟨e, rfl⟩ := h
    cases hc : Op.connects (.run now [e] stopOnAutoStop) with
    -- a connection takes the whole queue, whatever becomes of the commands
    | true =>
      obtain ⟨message, rfl⟩ := eq_connected_of_connects hc
      rw [apply_connection]
      rfl
    | false =>
      have he : ∀ message, e ≠ .status .connected message := by
        rintro message rfl
        cases hc
      have hempties : Op.empties (.run now [e] stopOnAutoStop) = false := hc
      rw [apply_run_singleton, pending_takeEvent he, hempties]
      exact hkept rfl
  | start now classId => exact pending_start r now classId
  | stop =>
    rw [Op.apply, value_stop]
    dsimp only
    split
    · exact hkept (pending_automate _ _)
    · exact hkept rfl
  | clear => exact hkept rfl
  | configure s =>
    rw [Op.apply, value_configure]
    cases Line.Parser.compile? s.line s.fields with
    | error fault => exact hkept rfl
    | ok parser => exact hkept rfl
  | dispose => rfl
  | attach port => exact hkept rfl
  | detach => exact hkept (pending_automate r .disconnect)
  | queue command => rfl
  | send text => exact hkept rfl
  | sendQuick id => exact hkept rfl
  | clearLive => exact hkept rfl
  | clearHistory => exact hkept rfl

theorem transmitter_automate_withPending (r : Recorder) (trigger : Transmit.Trigger) (pending : List Pending) :
    (automate { r with pending } trigger).value.transmitter = (r.automate trigger).value.transmitter := by
  rw [value_automate, value_automate]
  split <;> rfl

/-- What waits plays no part in what is sent, but at a connection. -/
theorem transmitter_apply_withPending (r : Recorder) {op : Op} (h : op.IsSingle) (hc : op.connects = false)
    (pending : List Pending) : (op.apply { r with pending }).transmitter = (op.apply r).transmitter := by
  -- no condition on the way to a command looks at what waits
  cases op with
  | line now text => exact (transmitter_takeLine _ now text).trans (transmitter_takeLine r now text).symm
  | run now events stopOnAutoStop =>
    obtain ⟨e, rfl⟩ := h
    rw [apply_run_singleton, apply_run_singleton]
    cases e with
    | line text => exact (transmitter_takeLine _ now text).trans (transmitter_takeLine r now text).symm
    | status status message =>
      have hstatus : status ≠ .connected := by
        rintro rfl
        cases hc
      simp only [takeEvent, Traced.value_bind, value_setStatus_of_ne hstatus]
      rfl
    | autoStop generation =>
      rw [value_takeEvent_autoStop, value_takeEvent_autoStop]
      dsimp only
      split
      · exact transmitter_automate_withPending { r with session := (r.session.expire generation).value.2 }
          .recordingStop pending
      · rfl
    | sourceClosed => rfl
    | shutdown => rfl
  | start now classId =>
    simp only [Op.apply, value_start]
    split
    · simp only [value_announceStart]
      split
      · split
        · rw [← transmitter_sendAll, ← transmitter_sendAll]
        · rfl
      · rfl
    · rfl
  | stop =>
    rw [Op.apply, Op.apply, value_stop, value_stop]
    dsimp only
    split
    · exact transmitter_automate_withPending { r with session := r.session.stop.value } .recordingStop pending
    · rfl
  | clear => rfl
  | configure s =>
    rw [Op.apply, Op.apply, value_configure, value_configure]
    cases Line.Parser.compile? s.line s.fields <;> rfl
  | dispose => rfl
  | attach port => rfl
  | detach =>
    exact congrArg Transmit.Transmitter.disconnect (transmitter_automate_withPending r .disconnect pending)
  | queue command => rfl
  | send text => rfl
  | sendQuick id => rfl
  | clearLive => rfl
  | clearHistory => rfl

/-! ### Runs -/

theorem waiting_concat (steps : List (Recorder × Op)) (step : Recorder × Op) :
    waiting (steps ++ [step]) = if step.2.empties then [] else waiting steps ++ step.2.queued step.1 := by
  unfold waiting
  cases h : step.2.empties with
  | true => simp [h]
  | false => simp [h, List.flatMap_append]

theorem pending_after_singles {r : Recorder} (h : r.pending = []) {ops : List Op} (hops : ∀ op ∈ ops, op.IsSingle) :
    (r.after ops).pending = waiting (r.moments ops) := by
  induction ops using List.reverseRecOn with
  | nil => exact h
  | append_singleton ops op ih =>
    have hbefore := ih fun op hop => hops op (List.mem_append_left _ hop)
    rw [after_concat, moments_concat, waiting_concat, pending_apply _ (hops op (by simp)), hbefore]

theorem queued_eq_nil_of_empties {op : Op} (h : op.empties = true) (r : Recorder) : op.queued r = [] := by
  cases op with
  | start now classId => cases h
  | queue command => cases h
  | _ => rfl

/-- What was held back has left the queue in order, or still waits. -/
theorem queued_eq_released (r : Recorder) {ops : List Op} (hops : ∀ op ∈ ops, op.IsSingle) :
    r.pending ++ (r.moments ops).flatMap (fun step => step.2.queued step.1) =
      (r.moments ops).flatMap (fun step => if step.2.empties then step.1.pending else []) ++ (r.after ops).pending := by
  induction ops generalizing r with
  | nil => simp [moments]
  | cons op ops ih =>
    have hstep := pending_apply r (hops op List.mem_cons_self)
    have hrest := ih (op.apply r) fun op hop => hops op (List.mem_cons_of_mem _ hop)
    rw [after_cons, moments, List.flatMap_cons, List.flatMap_cons, List.append_assoc, ← hrest, hstep]
    -- what empties the queue holds nothing back itself
    cases he : op.empties with
    | true => simp [queued_eq_nil_of_empties he]
    | false => simp

theorem pending_after_of_kept {r : Recorder} {ops : List Op} (hops : ∀ op ∈ ops, op.IsSingle)
    (h : ∀ step ∈ r.moments ops, step.2.empties = false) :
    (r.after ops).pending = r.pending ++ (r.moments ops).flatMap fun step => step.2.queued step.1 := by
  have hreleased : (r.moments ops).flatMap (fun step => if step.2.empties then step.1.pending else []) = [] :=
    List.flatMap_eq_nil_iff.mpr fun step hstep => by simp [h step hstep]
  rw [queued_eq_released r hops, hreleased, List.nil_append]

/-- What is held back waits until it is tried, once and in order, at the first connection behind it, or until the
recorder is disposed of.  At a connection the command of this event goes first, a failed attempt is logged and leaves
nothing else behind but a port that has answered, if it was asked, and the next command is tried.  No other operation
sends what waits, or changes it. -/
theorem queue_after {s : Settings} {r₀ : Recorder} (h : (new s).value = .ok r₀) (ops : List Op) :
    let steps := r₀.history ops
    ((∀ before step later, steps = before ++ step :: later → step.1.pending = waiting before) ∧
        (r₀.after ops).pending = waiting steps) ∧
      steps.flatMap (fun step => step.2.queued step.1) =
          steps.flatMap (fun step => if step.2.empties then step.1.pending else []) ++ (r₀.after ops).pending ∧
      ∀ step ∈ steps,
        (∀ now message stopOnAutoStop, step.2 = .run now [.status .connected message] stopOnAutoStop →
          let greeted := (step.1.greeted message).value
          let tried := greeted.attempts step.1.pending
          step.2.apply step.1 = { greeted.afterAttempts step.1.pending with pending := [] } ∧
            tried.map (·.command) = step.1.pending ∧
            (step.1.takeEvent now stopOnAutoStop (.status .connected message)).events =
              (step.1.greeted message).events ++ tried.flatMap Attempt.log ∧
            ∀ a ∈ tried, ∀ fault, (a.command.send a.recorder.transmitter).value.1 = .error fault →
              a.recorder.attempt a.command =
                { a.recorder with
                  transmitter :=
                    { a.recorder.transmitter with port := a.command.portAfter a.recorder.transmitter } }) ∧
          (step.2.connects = false → ∀ pending,
            (step.2.apply { step.1 with pending }).transmitter = (step.2.apply step.1).transmitter) ∧
          (step.2.apply step.1).pending =
            if step.2.empties then [] else step.1.pending ++ step.2.queued step.1 := by
  intro steps
  have hsingle : ∀ op ∈ r₀.singly ops, op.IsSingle := fun op hop => isSingle_of_mem_singly hop
  have hempty : r₀.pending = [] := by
    obtain ⟨parser, -, rfl⟩ := eq_of_value_new h
    rfl
  have hafter : (r₀.after (r₀.singly ops)).pending = (r₀.after ops).pending := by rw [after_singly]
  refine ⟨⟨fun before step later hsplit => ?_, ?_⟩, ?_, fun step hstep => ⟨?_, ?_, ?_⟩⟩
  · obtain ⟨first, rest, hops, rfl, hmeets, -⟩ := moments_eq_append hsplit
    have hfirst : ∀ op ∈ first, op.IsSingle := fun op hop => hsingle op (by rw [hops]; simp [hop])
    rw [hmeets, pending_after_singles hempty hfirst]
  · rw [← hafter]
    exact pending_after_singles hempty hsingle
  · rw [← hafter]
    have hbalance := queued_eq_released r₀ hsingle
    rwa [hempty, List.nil_append] at hbalance
  · intro now message stopOnAutoStop hconnected greeted tried
    refine ⟨?_, map_command_attempts _ _, ?_, fun a _ fault hfault => attempt_of_error hfault⟩
    · rw [hconnected]
      exact apply_connection _ _ _ _
    · simp only [takeEvent, Traced.events_bind, Traced.events_pure, List.append_nil]
      exact events_setStatus_connected step.1 message
  · intro hconnects pending
    exact transmitter_apply_withPending step.1 (isSingle_of_mem_moments hsingle hstep) hconnects pending
  · exact pending_apply step.1 (isSingle_of_mem_moments hsingle hstep)

/-- Commands that fail before others, one of them because the port refuses a single write, a second connection, and one
command that comes too late for both. -/
theorem queue_after_mixed :
    ∃ r₀ : Recorder,
      let transmit : Transmit.Settings :=
        { enabled := true, classCommands := [⟨"a", "ONE", true⟩],
          automated := { onConnect := "HELLO", onRecordingStart := "GO" } }
      let ops : List Op :=
        [.attach { later := [some .notWritable, none] }, .queue (.quick "absent"), .start 1 (some "a"), .queue (.text "PING"),
          .run 2 [.status .connecting none, .status .connected none, .status .connected none] false,
          .queue (.text "LATE"), .detach, .dispose]
      let steps := r₀.history ops
      (new { transmit }).value = .ok r₀ ∧
        (r₀.after ops).transmitter.sent.map (·.text) = ["HELLO", "ONE", "PING", "HELLO"] ∧
        steps.flatMap (fun step => step.2.queued step.1) =
          [.quick "absent", .automated .recordingStart, .classCommand "a", .text "PING", .text "LATE"] ∧
        steps.flatMap (fun step => step.2.queued step.1) =
          steps.flatMap (fun step => if step.2.empties then step.1.pending else []) ++ (r₀.after ops).pending := by
  refine ⟨_, rfl, by decide +kernel, by decide +kernel, ?_⟩
  exact (queue_after (s := { transmit := _ }) rfl _).2.1

end SampleRecorder.Recorder
