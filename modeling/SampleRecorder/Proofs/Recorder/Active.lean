import Mathlib.Data.List.Induction
import SampleRecorder.Proofs.Recorder.Attempts

/-!
# When a recording is active

Whether a recording is active is read off what was done to the recorder: it is `Underway` if the latest start that was
accepted has not been ended since, by a stop, the end of its time, or the end of the recorder.  The main fact is that
the session says the same after any run (`isRecording_after_iff`).
-/

namespace SampleRecorder.Recorder

open Recording.Session (chosen?)

/-- A session that has started records under the class that was chosen. -/
theorem started_session {s : Recording.Session} {now : Int} {classId : Option String}
    (hs : (s.start now classId).value.1 = true) :
    (s.start now classId).value.2.isRecording = true ∧
      (s.start now classId).value.2.currentClass = chosen? classId := by
  rw [Recording.Session.value_start] at hs ⊢
  split at hs
  · cases hs
  · next hc =>
    rw [if_neg hc]
    exact ⟨rfl, rfl⟩

theorem refused_session {s : Recording.Session} {now : Int} {classId : Option String}
    (hs : (s.start now classId).value.1 = false) : (s.start now classId).value.2 = s :=
  congrArg Prod.snd (Recording.Session.start_of_refused hs)

/-- Whether an operation starts a recording. -/
def Op.starts (r : Recorder) : Op → Bool
  | .start now classId => (r.session.start now classId).value.1
  | _ => false

/-- Whether an operation ends a recording that is active. -/
def Op.ends (r : Recorder) : Op → Bool
  | .stop | .dispose => true
  | .run _ [.autoStop generation] _ => (r.session.expire generation).value.1
  | _ => false

/-- Whether the latest start among the steps of a run has not been ended since. -/
def Underway (steps : List (Recorder × Op)) : Prop :=
  ∃ before start later, steps = before ++ start :: later ∧ start.2.starts start.1 = true ∧
    ∀ step ∈ later, step.2.ends step.1 = false

theorem isRecording_takeEvent (r : Recorder) (now : Int) (e : Event) (stopOnAutoStop : Bool) :
    (r.takeEvent now stopOnAutoStop e).value.2.session.isRecording =
      if Op.ends r (.run now [e] stopOnAutoStop) then false else r.session.isRecording := by
  cases e with
  | line text =>
    obtain ⟨session, h, hr⟩ := takeLine_eq r now text
    simp only [takeEvent, Traced.value_bind, h]
    exact hr
  | status status message =>
    simp only [takeEvent, Traced.value_bind]
    exact congrArg Recording.Session.isRecording (sends_setStatus r status message).session
  | autoStop generation =>
    have hexpire := r.session.value_expire generation
    rw [value_takeEvent_autoStop]
    by_cases hc : generation = r.session.generation ∧ r.session.isRecording ∧ r.session.isArmed
    · rw [if_pos hc] at hexpire
      simp [hexpire, session_automate, Recording.Session.value_stop, Op.ends]
    · rw [if_neg hc] at hexpire
      simp [hexpire, Op.ends]
  | sourceClosed => rfl
  | shutdown => rfl

theorem isRecording_apply (r : Recorder) {op : Op} (h : op.IsSingle) :
    (op.apply r).session.isRecording =
      if op.starts r then true else if op.ends r then false else r.session.isRecording := by
  cases op with
  | line now text =>
    obtain ⟨session, h, hr⟩ := takeLine_eq r now text
    simp only [Op.apply, h]
    exact hr
  | run now events stopOnAutoStop =>
    obtain ⟨e, rfl⟩ := h
    rw [apply_run_singleton]
    exact isRecording_takeEvent r now e stopOnAutoStop
  | start now classId =>
    cases hs : (r.session.start now classId).value.1 with
    | true =>
      have hrec := (started_session hs).1
      simp only [Op.apply, value_start, hs, ↓reduceIte, (sends_announceStart _ classId).session, hrec, Op.starts]
    | false =>
      have hkept := refused_session hs
      simp [Op.apply, value_start, hs, hkept, Op.starts, Op.ends]
  | stop =>
    have hstop : r.session.stop.value.isRecording = false := by rw [Recording.Session.value_stop]
    rw [Op.apply, value_stop]
    dsimp only
    split
    · rw [session_automate]
      exact hstop
    · exact hstop
  | clear => rfl
  | configure s =>
    rw [Op.apply, value_configure]
    cases Line.Parser.compile? s.line s.fields <;> rfl
  | dispose => exact congrArg Recording.Session.isRecording r.session.value_stop
  | attach port => rfl
  | detach => exact congrArg Recording.Session.isRecording (session_automate r .disconnect)
  | queue command => rfl
  | send text => rfl
  | sendQuick id => rfl
  | clearLive => rfl
  | clearHistory => rfl

theorem underway_concat (steps : List (Recorder × Op)) (step : Recorder × Op) :
    Underway (steps ++ [step]) ↔
      step.2.starts step.1 = true ∨ step.2.ends step.1 = false ∧ Underway steps := by
  constructor
  · rintro ⟨before, start, later, heq, hstarts, hlater⟩
    rcases List.eq_nil_or_concat later with rfl | ⟨later, last, rfl⟩
    · obtain ⟨-, heq⟩ := List.append_inj' heq rfl
      obtain rfl : step = start := by simpa using heq
      exact .inl hstarts
    · rw [List.concat_eq_append, ← List.cons_append, ← List.append_assoc] at heq
      obtain ⟨rfl, heq⟩ := List.append_inj' heq rfl
      obtain rfl : step = last := by simpa using heq
      rw [List.concat_eq_append] at hlater
      exact .inr ⟨hlater step (by simp), before, start, later, rfl, hstarts,
        fun s hs => hlater s (List.mem_append_left _ hs)⟩
  · rintro (hstarts | ⟨hends, before, start, later, rfl, hstarts, hlater⟩)
    · exact ⟨steps, step, [], rfl, hstarts, fun _ hs => absurd hs List.not_mem_nil⟩
    · refine ⟨before, start, later ++ [step], by simp, hstarts, fun s hs => ?_⟩
      rcases List.mem_append.mp hs with hs | hs
      · exact hlater s hs
      · rw [List.mem_singleton.mp hs]
        exact hends

/-- A recording is active if a start has not been ended since, or if one was active before and has not been ended. -/
theorem isRecording_after_iff (r : Recorder) {ops : List Op} (hops : ∀ op ∈ ops, op.IsSingle) :
    (r.after ops).session.isRecording = true ↔
      Underway (r.moments ops) ∨
        r.session.isRecording = true ∧ ∀ step ∈ r.moments ops, step.2.ends step.1 = false := by
  -- from the end: the last operation decides, unless it neither starts nor ends a recording
  induction ops using List.reverseRecOn with
  | nil => simp [moments, Underway]
  | append_singleton ops op ih =>
    have hbefore := ih fun op hop => hops op (List.mem_append_left _ hop)
    rw [after_concat, moments_concat, underway_concat, isRecording_apply _ (hops op (by simp))]
    cases op.starts (r.after ops) with
    | true => simp
    | false =>
      cases he : op.ends (r.after ops) with
      | true =>
        have hlast : (r.after ops, op) ∈ r.moments ops ++ [(r.after ops, op)] := by simp
        have hended : ¬ ∀ step ∈ r.moments ops ++ [(r.after ops, op)], step.2.ends step.1 = false := by
          intro hkept
          exact Bool.noConfusion ((hkept _ hlast).symm.trans he)
        simp only [hended, Bool.false_eq_true, reduceCtorEq, false_and, and_false, or_false, ↓reduceIte]
      | false => simp [he, hbefore, or_imp, forall_and]

/-- After a run a recording is active exactly if the latest start has not been ended since. -/
theorem isRecording_iff_underway {r : Recorder} (hr : r.session.isRecording = false) (ops : List Op) :
    (r.after ops).session.isRecording = true ↔ Underway (r.history ops) := by
  have hsingle : ∀ op ∈ r.singly ops, op.IsSingle := fun op hop => isSingle_of_mem_singly hop
  rw [← after_singly, isRecording_after_iff r hsingle, hr]
  simp [history]

/-- A step of a run meets an active recording exactly if the latest start before it has not been ended since. -/
theorem isRecording_iff_underway_before {r : Recorder} (hr : r.session.isRecording = false) {ops : List Op}
    {before later : List (Recorder × Op)} {step : Recorder × Op} (h : r.history ops = before ++ step :: later) :
    step.1.session.isRecording = true ↔ Underway before := by
  obtain ⟨first, rest, hops, rfl, hmeets, -⟩ := moments_eq_append h
  have hfirst : ∀ op ∈ first, op.IsSingle := fun op hop =>
    isSingle_of_mem_singly (by rw [hops]; exact List.mem_append_left _ hop)
  rw [hmeets, isRecording_after_iff r hfirst, hr]
  simp

/-- Behind a start a recording is active exactly if the latest start has not been ended since. -/
theorem isRecording_after_start {r : Recorder} {op : Op} {ops : List Op} (hops : ∀ o ∈ op :: ops, o.IsSingle)
    (hs : op.starts r = true) :
    (r.after (op :: ops)).session.isRecording = true ↔ Underway (r.moments (op :: ops)) := by
  rw [isRecording_after_iff r hops]
  refine ⟨?_, .inl⟩
  -- if nothing has ended a recording from before, nothing has ended the one that was started either
  rintro (hunderway | ⟨-, hkept⟩)
  · exact hunderway
  · exact ⟨[], (r, op), _, rfl, hs, fun step hstep => hkept step (List.mem_cons_of_mem _ hstep)⟩

end SampleRecorder.Recorder
