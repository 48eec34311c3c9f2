import SampleRecorder.Proofs.Recording.Session

/-!
# Runs of a session

Everything that can be done to a session, as one type, and the session after a list of operations.  `steps` pairs each
operation of a run with the session that it meets, so that what happened in a run can be said of its history alone.
-/

namespace SampleRecorder.Recording.Session

/-- An operation on a session; times are those at which it takes place. -/
inductive Op where
  | start (now : Int) (classId : Option String)
  | stop
  | record (now : Int) (data : Reading) (label : Option String)
  | clear
  | configure (settings : Settings)
  | expire (generation : Nat)
  | dispose

/-- The session after an operation; to dispose of a session is to end its recording. -/
def Op.apply (s : Session) : Op → Session
  | .start now classId => (s.start now classId).value.2
  | .stop | .dispose => s.stop.value
  | .record now data label => (s.record now data label).2
  | .clear => s.clear.value
  | .configure settings => (s.configure settings).value
  | .expire generation => (s.expire generation).value.2

/-- The session after operations, one after the other. -/
def after (s : Session) (ops : List Op) : Session :=
  ops.foldl Op.apply s

/-- The operations of a run, each with the session that it meets. -/
def steps (s : Session) : List Op → List (Session × Op)
  | [] => []
  | op :: ops => (s, op) :: (op.apply s).steps ops

@[simp] theorem after_nil (s : Session) : s.after [] = s := rfl

@[simp] theorem after_cons (s : Session) (op : Op) (ops : List Op) :
    s.after (op :: ops) = (op.apply s).after ops := rfl

theorem after_append (s : Session) (a b : List Op) : s.after (a ++ b) = (s.after a).after b :=
  List.foldl_append

theorem steps_append (s : Session) (a b : List Op) : s.steps (a ++ b) = s.steps a ++ (s.after a).steps b := by
  induction a generalizing s with
  | nil => rfl
  | cons op a ih => rw [List.cons_append, steps, ih, steps, List.cons_append, after_cons]

/-- What holds of a session and is kept by every operation holds after any operations. -/
theorem after_induction {motive : Session → Prop} (step : ∀ s (op : Op), motive s → motive (op.apply s)) {s : Session}
    (h : motive s) (ops : List Op) : motive (s.after ops) := by
  induction ops generalizing s with
  | nil => exact h
  | cons op ops ih => exact ih (step s op h)

/-! ### Starts and what takes back an end in time -/

/-- Whether an operation on a session is a start that succeeds. -/
def Op.starts (s : Session) : Op → Bool
  | .start now classId => (s.start now classId).value.1
  | _ => false

/-- Whether an operation on a session takes back the end in time of the latest start. -/
def Op.disarms (s : Session) : Op → Bool
  | .stop | .dispose | .configure _ => true
  | .expire generation => (s.expire generation).value.1
  | .start .. | .record .. | .clear => false

/-- The number of starts in a run that succeed. -/
def startCount (s : Session) (ops : List Op) : Nat :=
  (s.steps ops).countP fun step => step.2.starts step.1

theorem startCount_concat (s : Session) (ops : List Op) (op : Op) :
    s.startCount (ops ++ [op]) = s.startCount ops + if op.starts (s.after ops) then 1 else 0 := by
  simp [startCount, steps_append, steps, List.countP_append, List.countP_cons]

end SampleRecorder.Recording.Session
