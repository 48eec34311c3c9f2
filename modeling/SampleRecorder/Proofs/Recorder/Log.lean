import Mathlib.Data.List.Perm.Basic
import SampleRecorder.Proofs.Recorder.Queue

/-!
# The log of a run

When a recorder sends the command of an event, the transmitter says so in the log.  So the log shows which attempts were
made: here the announcements of one event are counted, first those of one attempt (`countP_events_attempt`), then those
of one operation, which are the announcements of its attempts (`countP_events_apply`), and then those of a run
(`countP_log`).
-/

namespace SampleRecorder

open Transmit (Trigger)

/-- Whether a log event announces the command of a trigger. -/
def Log.Event.announces (trigger : Trigger) (e : Log.Event) : Bool :=
  e.level == .info && e.message == "Sending automated command" &&
    match e.data with
    | ("trigger", .str label) :: _ => label == trigger.label
    | _ => false

namespace Traced

variable {α β : Type}

/-- Whether nothing is announced on the way to a value. -/
def IsQuiet (x : Traced α) : Prop :=
  ∀ trigger, x.events.countP (Log.Event.announces trigger) = 0

theorem isQuiet_pure (a : α) : (pure a : Traced α).IsQuiet := fun _ => rfl

theorem IsQuiet.bind {x : Traced α} {f : α → Traced β} (hx : x.IsQuiet) (hf : (f x.value).IsQuiet) :
    (x >>= f).IsQuiet := fun trigger => by
  rw [events_bind, List.countP_append, hx trigger, hf trigger]

theorem countP_events_bind {x : Traced α} {f : α → Traced β} (hf : (f x.value).IsQuiet) (trigger : Trigger) :
    (x >>= f).events.countP (Log.Event.announces trigger) = x.events.countP (Log.Event.announces trigger) := by
  rw [events_bind, List.countP_append, hf trigger, Nat.add_zero]

theorem IsQuiet.countP_events_bind {x : Traced α} {f : α → Traced β} (hx : x.IsQuiet) (trigger : Trigger) :
    (x >>= f).events.countP (Log.Event.announces trigger) =
      (f x.value).events.countP (Log.Event.announces trigger) := by
  rw [events_bind, List.countP_append, hx trigger, Nat.zero_add]

theorem isQuiet_log {message : String} (h : message ≠ "Sending automated command") (level : Log.Level)
    (data : List (String × Json)) : (log level message data).IsQuiet := fun trigger => by
  simp [log, Log.Event.announces, h]

theorem isQuiet_logIf {message : String} (h : message ≠ "Sending automated command") (condition : Bool)
    (level : Log.Level) (data : List (String × Json)) : (logIf condition level message data).IsQuiet := by
  unfold logIf
  cases condition with
  | true => exact isQuiet_log h level data
  | false => exact isQuiet_pure ()

theorem isQuiet_mapList {f : α → Traced β} (h : ∀ a, (f a).IsQuiet) (l : List α) : (mapList f l).IsQuiet := by
  induction l with
  | nil => exact isQuiet_pure []
  | cons a l ih => exact (h a).bind (ih.bind (isQuiet_pure _))

end Traced

open Traced (isQuiet_pure isQuiet_log isQuiet_logIf isQuiet_mapList)

/-! ### What announces nothing -/

theorem Line.Strategy.isQuiet_fields? (names : List String) (line : String) (s : Line.Strategy) :
    (s.fields? names line).IsQuiet := by
  cases s with
  | split delimiter =>
    simp only [Line.Strategy.fields?]
    split
    · exact (isQuiet_log (by decide) _ _).bind (isQuiet_pure _)
    · exact isQuiet_pure _
  | regex r names => exact isQuiet_pure _
  | json =>
    simp only [Line.Strategy.fields?]
    split
    · exact (isQuiet_log (by decide) _ _).bind (isQuiet_pure _)
    · exact isQuiet_pure _
    · exact (isQuiet_log (by decide) _ _).bind (isQuiet_pure _)
  | custom program =>
    simp only [Line.Strategy.fields?]
    split
    · exact isQuiet_pure _
    · exact isQuiet_pure _
    · exact (isQuiet_log (by decide) _ _).bind (isQuiet_pure _)

theorem Line.Parser.isQuiet_read (p : Line.Parser) (now : Int) (line : String) : (p.read now line).IsQuiet := by
  simp only [Line.Parser.read]
  split
  · exact (isQuiet_log (by decide) _ _).bind (isQuiet_pure _)
  · exact (Line.Strategy.isQuiet_fields? _ _ _).bind (isQuiet_pure _)

theorem Line.Parser.isQuiet_compile (s : Line.Settings) (fields : List String) :
    (Line.Parser.compile s fields).IsQuiet := by
  unfold Line.Parser.compile
  split
  · exact (isQuiet_log (by decide) _ _).bind (isQuiet_pure _)
  · exact isQuiet_pure _

theorem Ruleset.isQuiet_judge (s : Ruleset) (data : Reading) : (s.judge data).IsQuiet := by
  unfold judge
  induction s.items with
  | nil => exact isQuiet_pure _
  | cons item rest ih =>
    rw [judgeBy]
    split
    · exact ih
    · split
      · exact (isQuiet_log (by decide) _ _).bind ih
      · split
        · exact (isQuiet_log (by decide) _ _).bind (isQuiet_pure _)
        · exact ih

theorem Rule.isQuiet_compile (r : Rule) : r.compile.IsQuiet := by
  simp only [compile]
  split
  · exact (isQuiet_log (by decide) _ _).bind (isQuiet_pure _)
  · exact isQuiet_pure _

theorem Ruleset.isQuiet_ofList (rules : List Rule) : (Ruleset.ofList rules).IsQuiet :=
  (isQuiet_mapList Rule.isQuiet_compile rules).bind ((isQuiet_log (by decide) _ _).bind (isQuiet_pure _))

namespace Recording.Session

theorem isQuiet_start (s : Session) (now : Int) (classId : Option String) : (s.start now classId).IsQuiet := by
  simp only [start]
  split <;> exact (isQuiet_log (by decide) _ _).bind (isQuiet_pure _)

theorem isQuiet_stop (s : Session) : s.stop.IsQuiet := by
  unfold stop
  split <;> exact (isQuiet_log (by decide) _ _).bind (isQuiet_pure _)

theorem isQuiet_expire (s : Session) (generation : Nat) : (s.expire generation).IsQuiet := by
  unfold expire
  split
  · exact (isQuiet_log (by decide) _ _).bind (s.isQuiet_stop.bind (isQuiet_pure _))
  · exact (isQuiet_log (by decide) _ _).bind (isQuiet_pure _)

end Recording.Session

theorem Transmit.Transmitter.isQuiet_send (t : Transmit.Transmitter) (text : String) : (t.send text).IsQuiet := by
  unfold send
  split
  · exact (isQuiet_log (by decide) _ _).bind (isQuiet_pure _)
  · split
    · exact isQuiet_pure _
    · split
      · exact isQuiet_pure _
      · split <;> exact (isQuiet_log (by decide) _ _).bind (isQuiet_pure _)

namespace Recorder

theorem isQuiet_compile (s : Settings) : (compile s).IsQuiet := by
  refine (Line.Parser.isQuiet_compile _ _).bind ?_
  split
  · exact isQuiet_pure _
  · exact (Ruleset.isQuiet_ofList _).bind (isQuiet_pure _)

theorem isQuiet_configure (r : Recorder) (s : Settings) : (r.configure s).IsQuiet := by
  refine (isQuiet_compile s).bind ?_
  split
  · exact isQuiet_pure _
  · refine Traced.IsQuiet.bind ((isQuiet_logIf (by decide) _ _ _).bind (isQuiet_pure _)) ?_
    refine Traced.IsQuiet.bind ((isQuiet_log (by decide) _ _).bind (isQuiet_pure _)) ?_
    exact (isQuiet_log (by decide) _ _).bind (isQuiet_pure _)

theorem isQuiet_takeLine (r : Recorder) (now : Int) (text : String) : (r.takeLine now text).IsQuiet := by
  refine (Line.Parser.isQuiet_read _ _ _).bind ?_
  split
  · exact isQuiet_pure _
  · refine (Ruleset.isQuiet_judge _ _).bind ?_
    split
    · exact (isQuiet_log (by decide) _ _).bind (isQuiet_pure _)
    · exact (isQuiet_log (by decide) _ _).bind (isQuiet_pure _)
    · exact isQuiet_pure _
    · exact isQuiet_pure _

/-! ### One attempt -/

/-- Whether an attempt is one to send the command of a trigger, and there is such a command. -/
def Attempt.announces (trigger : Trigger) (a : Attempt) : Bool :=
  a.command == .automated trigger && (a.command.text? a.recorder.transmitter.settings).isSome

variable {trigger : Trigger}

theorem label_injective {a b : Trigger} (h : a.label = b.label) : a = b := by
  cases a <;> cases b <;> first | rfl | exact absurd h (by decide)

/-- The transmitter announces the command of a trigger before it sends it, and nothing else so. -/
theorem countP_events_attempt (a : Attempt) :
    (a.command.send a.recorder.transmitter).events.countP (Log.Event.announces trigger) =
      [a].countP (Attempt.announces trigger) := by
  obtain ⟨r, p⟩ := a
  have hquiet {α : Type} {x : Traced α} (h : x.IsQuiet) (hp : p ≠ .automated trigger) :
      x.events.countP (Log.Event.announces trigger) = [(⟨r, p⟩ : Attempt)].countP (Attempt.announces trigger) := by
    rw [h trigger]
    simp [Attempt.announces, hp]
  cases p with
  | text content => exact hquiet (r.transmitter.isQuiet_send content) (by simp)
  | quick id =>
    refine hquiet ?_ (by simp)
    simp only [Pending.send, Transmit.Transmitter.sendQuick]
    split
    · exact Transmit.Transmitter.isQuiet_send _ _
    · exact (isQuiet_log (by decide) _ _).bind (isQuiet_pure _)
  | classCommand id =>
    refine hquiet ?_ (by simp)
    simp only [Pending.send, Transmit.Transmitter.sendClass, Transmit.Transmitter.sendNamed]
    split
    · exact isQuiet_pure _
    · exact (isQuiet_log (by decide) _ _).bind (Transmit.Transmitter.isQuiet_send _ _)
  | automated t =>
    simp only [Pending.send, Transmit.Transmitter.sendAutomated, Transmit.Transmitter.sendNamed]
    split
    · next hblank => simp [Attempt.announces, Pending.text?, Pending.configured?, hblank]
    · next content hcontent =>
      have hsend (text : String) := r.transmitter.isQuiet_send text trigger
      have htext : (Pending.text? r.transmitter.settings (.automated t)).isSome = true := by
        simp [Pending.text?, Pending.configured?]
      by_cases ht : t = trigger
      · subst ht
        simp [Attempt.announces, htext, Traced.log, Log.Event.announces, hsend]
      · have hlabel : t.label ≠ trigger.label := fun h => ht (label_injective h)
        simp [Attempt.announces, Traced.log, Log.Event.announces, hsend, ht, hlabel]

/-! ### One operation -/

/-- What an operation leaves in the log. -/
def Op.events (r : Recorder) : Op → List Log.Event
  | .line now text => (r.takeLine now text).events
  | .run now events stopOnAutoStop => (r.run now events stopOnAutoStop).events
  | .start now classId => (r.start now classId).events
  | .stop => r.stop.events
  | .clear => r.clear.events
  | .configure s => (r.configure s).events
  | .dispose => r.dispose.events
  | .detach => r.detach.events
  | .send text => (r.send text).events
  | .sendQuick id => (r.sendQuick id).events
  | .attach _ | .queue _ | .clearLive | .clearHistory => []

/-- The attempt to send the command of a trigger, which is made while the transmitter is enabled. -/
def triggered (r : Recorder) (trigger : Trigger) : List Attempt :=
  if r.transmitter.settings.enabled then [⟨r, .automated trigger⟩] else []

/-- The attempts that an event leads to, those for commands that were held back apart. -/
def eventAttempts (r : Recorder) : Event → List Attempt
  | .status .connected message =>
    let noted : Recorder := { r with status := .connected, statusMessage := message }
    noted.triggered .connect
  | .autoStop generation =>
    let expired := (r.session.expire generation).value
    if expired.1 then triggered { r with session := expired.2 } .recordingStop else []
  | _ => []

/-- The attempts that an operation makes, those for commands that were held back apart. -/
def Op.ownAttempts (r : Recorder) : Op → List Attempt
  | .run _ [e] _ => r.eventAttempts e
  | .start now classId =>
    let started := (r.session.start now classId).value
    if started.1 ∧ r.transmitter.settings.enabled ∧ r.status = .connected then
      attempts { r with session := started.2 } (startCommands classId)
    else []
  | .stop =>
    if r.session.isRecording then triggered { r with session := r.session.stop.value } .recordingStop else []
  | .detach => r.triggered .disconnect
  | .send text => [⟨r, .text text⟩]
  | .sendQuick id => [⟨r, .quick id⟩]
  | _ => []

/-- The attempts that a connection makes for the commands that were held back. -/
def Op.releasedAttempts (r : Recorder) : Op → List Attempt
  | .run _ [.status .connected message] _ => (r.greeted message).value.attempts r.pending
  | _ => []

theorem countP_log_attempts (attempts : List Attempt) :
    (attempts.flatMap Attempt.log).countP (Log.Event.announces trigger) =
      attempts.countP (Attempt.announces trigger) := by
  induction attempts with
  | nil => rfl
  | cons a attempts ih =>
    have hlog : a.log.countP (Log.Event.announces trigger) = [a].countP (Attempt.announces trigger) := by
      rw [← countP_events_attempt, Attempt.log, List.countP_append]
      split <;> simp [Log.Event.announces]
    rw [List.flatMap_cons, List.countP_append, ih, hlog, ← List.countP_append]
    rfl

theorem countP_events_automate (r : Recorder) (t : Trigger) :
    (r.automate t).events.countP (Log.Event.announces trigger) =
      (r.triggered t).countP (Attempt.announces trigger) := by
  unfold automate triggered
  cases r.transmitter.settings.enabled with
  | false => rfl
  | true =>
    rw [if_pos rfl, if_pos rfl, ← countP_events_attempt]
    refine Traced.countP_events_bind ?_ trigger
    dsimp only
    split
    · exact isQuiet_pure _
    · exact (isQuiet_log (by decide) _ _).bind (isQuiet_pure _)

theorem countP_events_sendClass (r : Recorder) (classId : String) :
    (r.sendClass classId).events.countP (Log.Event.announces trigger) =
      [(⟨r, .classCommand classId⟩ : Attempt)].countP (Attempt.announces trigger) := by
  rw [← countP_events_attempt]
  refine Traced.countP_events_bind ?_ trigger
  dsimp only
  split
  · exact isQuiet_pure _
  · exact (isQuiet_log (by decide) _ _).bind (isQuiet_pure _)

theorem countP_events_announceStart (r : Recorder) (classId : Option String) :
    (r.announceStart classId).events.countP (Log.Event.announces trigger) =
      (if r.transmitter.settings.enabled ∧ r.status = .connected then r.attempts (startCommands classId)
        else []).countP (Attempt.announces trigger) := by
  unfold announceStart
  cases he : r.transmitter.settings.enabled with
  | false => simp
  | true =>
    by_cases hs : r.status = .connected
    · have hfirst := value_automate r .recordingStart
      have hcount : (r.automate .recordingStart).events.countP (Log.Event.announces trigger) = _ :=
        countP_events_automate r .recordingStart
      rw [if_pos he] at hfirst
      rw [triggered, if_pos he] at hcount
      simp only [hs, Bool.not_true, Bool.false_eq_true, ne_eq, not_true_eq_false, ↓reduceIte, and_self,
        Traced.events_bind, List.countP_append, hcount, hfirst]
      cases classId with
      | none => simp [startCommands, attempts]
      | some c =>
        simp only [countP_events_sendClass, startCommands, attempts, Option.toList_some, List.map_cons, List.map_nil]
        rw [← List.countP_append]
        rfl
    · simp [hs]

theorem isQuiet_setStatus {status : Source.Status} (h : status ≠ .connected) (r : Recorder)
    (message : Option String) : (r.setStatus status message).IsQuiet := by
  have hwarning : (Traced.logIf (status == .error) .warn (message.getD "")).IsQuiet := fun trigger => by
    unfold Traced.logIf
    split <;> simp [Traced.log, Log.Event.announces]
  refine hwarning.bind ?_
  rw [if_neg h]
  exact isQuiet_pure _

theorem countP_events_takeEvent (r : Recorder) (now : Int) (e : Event) (stopOnAutoStop : Bool) :
    (r.takeEvent now stopOnAutoStop e).events.countP (Log.Event.announces trigger) =
      (Op.ownAttempts r (.run now [e] stopOnAutoStop) ++ Op.releasedAttempts r (.run now [e] stopOnAutoStop)).countP
        (Attempt.announces trigger) := by
  cases e with
  | line text => exact (r.isQuiet_takeLine now text).bind (isQuiet_pure _) trigger
  | status status message =>
    rw [takeEvent, Traced.events_bind, Traced.events_pure, List.append_nil]
    by_cases hc : status = .connected
    · subst hc
      rw [events_setStatus_connected, List.countP_append, countP_log_attempts, greeted, countP_events_automate,
        ← List.countP_append]
      rfl
    · rw [isQuiet_setStatus hc r message trigger]
      cases status <;> first | rfl | exact absurd rfl hc
  | autoStop generation =>
    rw [takeEvent, (r.session.isQuiet_expire generation).countP_events_bind]
    simp only [Op.ownAttempts, eventAttempts, Op.releasedAttempts, List.append_nil]
    cases (r.session.expire generation).value.1 with
    | true => exact (Traced.countP_events_bind (isQuiet_pure _) trigger).trans (countP_events_automate _ _)
    | false => rfl
  | sourceClosed => rfl
  | shutdown => rfl

/-! ### Events of a run -/

theorem countP_events_run (r : Recorder) (now : Int) (events : List Event) (stopOnAutoStop : Bool) :
    (r.run now events stopOnAutoStop).events.countP (Log.Event.announces trigger) =
      (takeEvents now stopOnAutoStop r 0 events).events.countP (Log.Event.announces trigger) := by
  refine Traced.countP_events_bind ?_ trigger
  exact (isQuiet_log (by decide) _ _).bind (isQuiet_pure _)

theorem countP_events_run_singleton (r : Recorder) (now : Int) (e : Event) (stopOnAutoStop : Bool) :
    (r.run now [e] stopOnAutoStop).events.countP (Log.Event.announces trigger) =
      (r.takeEvent now stopOnAutoStop e).events.countP (Log.Event.announces trigger) := by
  rw [countP_events_run]
  simp only [takeEvents, Traced.events_bind]
  cases (r.takeEvent now stopOnAutoStop e).value with
  | mk ended r' => cases ended <;> simp

/-- The log of an operation announces what is attempted in it. -/
theorem countP_events_apply (r : Recorder) {op : Op} (h : op.IsSingle) :
    (op.events r).countP (Log.Event.announces trigger) =
      (op.ownAttempts r ++ op.releasedAttempts r).countP (Attempt.announces trigger) := by
  cases op with
  | line now text => exact isQuiet_takeLine r now text trigger
  | run now events stopOnAutoStop =>
    obtain ⟨e, rfl⟩ := h
    rw [Op.events, countP_events_run_singleton, countP_events_takeEvent]
  | start now classId =>
    simp only [Op.events, start, Op.ownAttempts, Op.releasedAttempts, List.append_nil]
    rw [(r.session.isQuiet_start now classId).countP_events_bind]
    cases (r.session.start now classId).value.1 with
    | true =>
      simp only [true_and, ↓reduceIte]
      rw [Traced.events_bind, Traced.events_pure, List.append_nil, countP_events_announceStart]
    | false => rfl
  | stop =>
    simp only [Op.events, stop, Op.ownAttempts, Op.releasedAttempts, List.append_nil]
    rw [r.session.isQuiet_stop.countP_events_bind]
    cases r.session.isRecording with
    | true => exact countP_events_automate _ _
    | false => rfl
  | clear => exact ((isQuiet_log (by decide) _ _).bind (isQuiet_pure _)).bind (isQuiet_pure _) trigger
  | configure s => exact isQuiet_configure r s trigger
  | dispose => exact r.session.isQuiet_stop.bind ((isQuiet_log (by decide) _ _).bind (isQuiet_pure _)) trigger
  | attach port => rfl
  | detach =>
    rw [Op.events, detach, Traced.events_bind, Traced.events_pure, List.append_nil, countP_events_automate]
    simp [Op.ownAttempts, Op.releasedAttempts]
  | queue command => rfl
  | send text =>
    exact (Traced.countP_events_bind (isQuiet_pure _) trigger).trans (countP_events_attempt ⟨r, .text text⟩)
  | sendQuick id =>
    exact (Traced.countP_events_bind (isQuiet_pure _) trigger).trans (countP_events_attempt ⟨r, .quick id⟩)
  | clearLive => rfl
  | clearHistory => rfl

/-! ### A run -/

/-- What the steps of a run leave in the log. -/
def log (steps : List (Recorder × Op)) : List Log.Event :=
  steps.flatMap fun step => step.2.events step.1

theorem countP_events_takenEvents (r : Recorder) (now : Int) (stopOnAutoStop : Bool) (lines : Nat)
    (events : List Event) :
    (takeEvents now stopOnAutoStop r lines events).events.countP (Log.Event.announces trigger) =
      (log (r.moments ((takenEvents now stopOnAutoStop r events).map fun e => .run now [e] stopOnAutoStop))).countP
        (Log.Event.announces trigger) := by
  induction events generalizing r lines with
  | nil => rfl
  | cons e rest ih =>
    have happly := apply_run_singleton r now e stopOnAutoStop
    simp only [takeEvents, Traced.events_bind]
    rw [List.countP_append, ← countP_events_run_singleton, takenEvents]
    cases hv : (r.takeEvent now stopOnAutoStop e).value with
    | mk ended r' =>
      rw [hv] at happly
      cases ended with
      | some reason => simp [moments, log, Op.events]
      | none =>
        simp only [List.map_cons, moments, log, List.flatMap_cons, happly, List.countP_append]
        rw [ih]
        rfl

theorem countP_events_singles (r : Recorder) (op : Op) :
    (op.events r).countP (Log.Event.announces trigger) =
      (log (r.moments (op.singles r))).countP (Log.Event.announces trigger) := by
  cases op with
  | run now events stopOnAutoStop =>
    rw [Op.events, countP_events_run]
    exact countP_events_takenEvents r now stopOnAutoStop 0 events
  | _ => simp [Op.singles, moments, log]

/-- What is done one event at a time announces the same. -/
theorem countP_events_singly (r : Recorder) (ops : List Op) :
    (log (r.moments ops)).countP (Log.Event.announces trigger) =
      (log (r.history ops)).countP (Log.Event.announces trigger) := by
  induction ops generalizing r with
  | nil => rfl
  | cons op ops ih =>
    have hrest := ih (op.apply r)
    rw [history, singly, moments_append, after_singles, moments]
    simp only [log, List.flatMap_cons, List.flatMap_append, List.countP_append] at hrest ⊢
    rw [hrest, countP_events_singles, history, log]

/-- The log of a run announces what is attempted in it. -/
theorem countP_log (r : Recorder) (ops : List Op) :
    (log (r.moments ops)).countP (Log.Event.announces trigger) =
      ((r.history ops).flatMap fun step => step.2.ownAttempts step.1).countP (Attempt.announces trigger) +
        ((r.history ops).flatMap fun step => step.2.releasedAttempts step.1).countP (Attempt.announces trigger) := by
  have hsingle : ∀ step ∈ r.history ops, step.2.IsSingle := fun step hstep =>
    isSingle_of_mem_moments (fun op hop => isSingle_of_mem_singly hop) hstep
  rw [countP_events_singly, ← List.countP_append, (List.flatMap_append_perm _ _ _).countP_eq _, log,
    List.countP_flatMap, List.countP_flatMap]
  exact congrArg List.sum (List.map_congr_left fun step hstep => countP_events_apply step.1 (hsingle step hstep))

end Recorder

end SampleRecorder
